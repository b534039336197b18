import Breadboard.Proofs.Allocation
import Breadboard.Proofs.Attributes
import Breadboard.Proofs.OutlineText
import Breadboard.Proofs.StoredNumbers
import Breadboard.Proofs.Writing

/-! # The numbers that a program prints

A live part with an angle, with steps or with milliseconds prints the number in its block of the loop, in the statements
and in their notes. What it prints is scanned as one number token, which is read as the number that was set. Together with
what is known of the numbers of a sketch text this makes numbers exact from end to end.

Main statement: `numbers_exact`.
-/

namespace Breadboard

open Script

/-- The text is a single number token, wherever no word character stands behind it, and reads as the integer. -/
structure ReadsBack (numeral : String) (value : Int64) : Prop where
  alone : (Scanner.start numeral).Reads [.number numeral]
  within : ∀ {scanner : Scanner} {rest : List Char}, scanner.rest = numeral.toList ++ rest →
    (∀ c ∈ rest.head?, Text.isWordChar c = false) →
      ∃ after, scanner.next = .ok ⟨.number numeral, scanner.position⟩ after ∧ after.rest = rest
  value_eq : Text.Numeral.read? numeral = some value

/-- Every number of 64 bits is read back from how it is written. -/
theorem readsBack_written (value : Int64) : ReadsBack (Text.Numeral.written value) value := by
  have spelled := spelled_written value
  constructor
  case alone =>
    have lexes : Lexes ((Text.Numeral.written value).toList ++ []) [.number (Text.Numeral.written value)] :=
      .spelled spelled (fun c member => nomatch member) (.finish rfl)
    rw [List.append_nil] at lexes
    exact Scanner.reads_iff_lexes.mpr lexes
  case within =>
    intro scanner rest front ends
    have gap : leadingGap scanner.rest = [] := front ▸ leadingGap_of_spelled spelled
    have still : scanner.skipGap = scanner := by
      rw [Scanner.skipGap, gap]
      rfl
    obtain ⟨found, behind⟩ := Scanner.next_of_front (by rwa [gap, List.nil_append]) spelled ends
    rw [still] at found behind
    exact ⟨_, found, behind⟩
  case value_eq => exact Text.Numeral.read?_written value

/-- The lines of a part's block in the loop, for the parts that print a number, with the numeral in its places. -/
inductive Part.Says (style : Style) (numeral : String) : Part → List String → Prop where
  | servo (name : String) (pin : Option Pin) (angle : Int64) : Says style numeral (.servo pin angle)
      [style.line (name ++ ".write(" ++ numeral ++ ");") ("Move Robotic Arm to " ++ numeral ++ " degrees")]
  | stepper (name : String) (coils : List Pin) (steps : Int64) : Says style numeral (.stepper coils steps)
      [style.line (name ++ ".step(" ++ numeral ++ ");") ("Move Step-by-Step Motor by " ++ numeral ++ " steps")]
  | wait (milliseconds : Int64) : Says style numeral (.wait milliseconds)
      [style.line ("delay(" ++ numeral ++ ");") ("Wait for " ++ numeral ++ " milliseconds")]
  | blinker (pin : Pin) (interval : Int64) : Says style numeral (.blinker (some pin) interval)
      [style.line (writeStatement pin "HIGH") "Turn Blinky Switch on",
        style.line ("delay(" ++ numeral ++ ");") ("Wait for " ++ numeral ++ " ms"),
        style.line (writeStatement pin "LOW") "Turn Blinky Switch off",
        style.line ("delay(" ++ numeral ++ ");") ("Wait for " ++ numeral ++ " ms")]

private theorem Part.Does.says {part : Part} {task : Task} (does : part.Does task) {slot : Attribute} {value : Int64}
    (printed : part.kind ≠ .light) (carries : part.get? slot = some (.number value)) (style : Style) (naming : Naming) :
    part.Says style (Text.Numeral.written value) ((task.command naming).lines style) := by
  cases does with
  | light pin level => exact absurd rfl printed
  | servo pin angle =>
    cases slot <;> cases carries
    exact .servo _ _ _
  | stepper coils steps =>
    cases slot <;> cases carries
    exact .stepper _ _ _
  | wait milliseconds =>
    cases slot <;> cases carries
    exact .wait _
  | blinker pin interval =>
    cases slot <;> cases carries
    exact .blinker _ _
  | button pin | power pin state => cases slot <;> cases carries

namespace Circuit

/-- The part at the position prints the number in its block, and the block stands in the source text. -/
structure PrintsNumber (style : Style) (circuit : Circuit) (position : Nat) (part : Part) (value : Int64) : Prop where
  block : ∃ numeral, ReadsBack numeral value ∧ part.Says style numeral (circuit.contribution style position).loop
  text : ∃ above below,
    (circuit.compile style).value = above ++ Sections.written (circuit.contribution style position).loop ++ below

/-- Each number of a live part, but for the level of a light, is printed. -/
def PrintsNumbers (style : Style) (circuit : Circuit) : Prop :=
  ∀ (position : Nat) (part : Part) (slot : Part.Attribute) (value : Int64),
    circuit.parts[position]? = some part → part.isLive = true → part.kind ≠ .light →
      part.get? slot = some (.number value) → circuit.PrintsNumber style position part value

/-- The numbers of the parts stand in the printed lines, and are read back from there. -/
theorem printsNumbers (style : Style) (circuit : Circuit) : circuit.PrintsNumbers style := by
  intro position part slot value placed live printed carries
  obtain ⟨task, found⟩ := Option.isSome_iff_exists.mp (part.isLive_eq ▸ live)
  have does := Part.task?_eq_some_iff.mp found
  have block : (circuit.contribution style position).loop = (task.command circuit.naming).lines style := by
    rw [contribution_loop, placed, Option.bind_some, command?, found, Option.map_some,
      Option.toList_some, List.flatMap_singleton]
    rfl
  have inside : position < circuit.size := (List.getElem?_eq_some_iff.mp placed).1
  have same : circuit.SameWiring circuit := List.forall₂_same.mpr fun _ _ => ⟨rfl, rfl⟩
  obtain ⟨above, below, text, -⟩ := same.exists_compile_eq style inside fun _ _ => rfl
  exact ⟨⟨_, readsBack_written value, block ▸ does.says printed carries style _⟩, above, below, text⟩

end Circuit

/-- Numbers are exact from end to end: those of a text are read as what their numerals denote or not at all, and those of
a circuit are printed as numerals that read as the same. -/
theorem numbers_exact (text : String) (style : Style) (circuit : Circuit) :
    ReadsNumbers text ∧ circuit.PrintsNumbers style :=
  ⟨readsNumbers text, circuit.printsNumbers style⟩

/-- The least number of all is printed, and a text with the numeral of the one below it is refused. -/
theorem numbers_exact_least :
    (∃ n position, Text.Numeral.ReadsExactly "-9223372036854775809" n ∧ ¬(-2 ^ 63 ≤ n ∧ n ≤ 2 ^ 63 - 1) ∧
        position.line = 2 ∧
        .ok ⟨.number "-9223372036854775809", position⟩ ∈
          (Scanner.start "wait 5\nwait -9223372036854775809\n").tokens) ∧
      Circuit.PrintsNumber .standard ⟨[.servo none 90, .wait Int64.minValue]⟩ 1 (.wait Int64.minValue)
        Int64.minValue := by
  obtain ⟨reads, prints⟩ := numbers_exact "wait 5\nwait -9223372036854775809\n" .standard
    ⟨[.servo none 90, .wait Int64.minValue]⟩
  constructor
  · have refused : Sketch.ofText "wait 5\nwait -9223372036854775809\n" =
        .error (.grammar (.numberOutOfRange "-9223372036854775809") 2) := by decide +kernel
    exact reads.refused refused rfl
  · exact prints 1 _ .value _ rfl rfl (by decide) rfl

end Breadboard
