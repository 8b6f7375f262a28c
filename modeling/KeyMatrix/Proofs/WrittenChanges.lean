import KeyMatrix.Message
import Mathlib.Data.List.Basic

/-! # Reading reported changes

Every report is written as a line. The lines that report a change are told from all other lines by
their front, and the change can be read back from them.
-/
namespace KeyMatrix

/-! ## Numbers -/

/-- Read the decimal digits at the front of a text, up to where it goes on with `stop`. What follows
after that is left. -/
def readNat? (stop : String) (text : List Char) : Option (Nat × List Char) := do
  let rest ← (text.dropWhile Char.isDigit).dropPrefix? stop.toList
  return (Nat.ofDigitChars 10 (text.takeWhile Char.isDigit) 0, rest)

theorem readNat?_toString {stop : String} (n : Nat) (rest : List Char)
    (h : stop.toList.head?.any (!·.isDigit) = true) :
    readNat? stop ((toString n).toList ++ (stop.toList ++ rest)) = some (n, rest) := by
  have hdigits : ∀ c ∈ (toString n).toList, c.isDigit = true := by
    intro c hc
    rw [Nat.toString_eq_repr, Nat.toList_repr] at hc
    exact Nat.isDigit_of_mem_toDigits (by decide) (by decide) hc
  have hstop : (stop.toList ++ rest).takeWhile Char.isDigit = [] ∧
      (stop.toList ++ rest).dropWhile Char.isDigit = stop.toList ++ rest := by
    cases hs : stop.toList with
    | nil => simp [hs] at h
    | cons c chars =>
      have hc : c.isDigit = false := by simpa [hs] using h
      simp [hc]
  rw [readNat?, List.takeWhile_append_of_pos hdigits, List.dropWhile_append_of_pos hdigits, hstop.1,
    hstop.2, List.append_nil, List.dropPrefix?_append_of_beq _ (beq_self_eq_true _),
    Nat.toString_eq_repr, Nat.toList_repr, Nat.ofDigitChars_toDigits (by decide) (by decide)]
  rfl

/-! ## Lines -/

namespace Message

/-- The change that a message reports, if it reports one. -/
def change? : Message → Option Change
  | .accepted change => some change
  | .initialized .. | .freed | .timerStarted _ | .logged _ => none

theorem change?_eq_none {message : Message} (h : message.level ≠ .trace) :
    message.change? = none := by
  cases message with
  | accepted change => exact absurd rfl h
  | _ => rfl

theorem toList_line (message : Message) :
    message.line.toList = message.level.name.toList ++ ' ' :: message.text.toList := by
  show (message.level.name ++ " " ++ message.text).toList = _
  simp [String.toList_append]

theorem text_accepted (change : Change) : (Message.accepted change).text =
    s!"Key ({change.row}, {change.col}) debounced, pressed: {change.pressed}" := by
  rcases change with ⟨row, col, pressed⟩
  cases pressed <;> rfl

theorem toList_line_accepted (change : Change) : (Message.accepted change).line.toList =
    "TRACE Key (".toList ++ ((toString change.row).toList ++ (", ".toList ++
      ((toString change.col).toList ++
        (") debounced, pressed: ".toList ++ (toString change.pressed).toList)))) := by
  rw [toList_line, text_accepted]
  show "TRACE".toList ++ ' ' :: ("Key (" ++ toString change.row ++ ", " ++ toString change.col ++
    ") debounced, pressed: " ++ toString change.pressed).toList = _
  simp [String.toList_append]

theorem line_accepted (change : Change) : (Message.accepted change).line =
    s!"TRACE Key ({change.row}, {change.col}) debounced, pressed: {change.pressed}" := by
  rw [← String.toList_inj, toList_line_accepted]
  show _ = ("TRACE Key (" ++ toString change.row ++ ", " ++ toString change.col ++
    ") debounced, pressed: " ++ toString change.pressed).toList
  simp only [String.toList_append, List.append_assoc]

end Message

namespace Change

/-- The change that a line reports, if it reports one. -/
def ofLine? (line : String) : Option Change := do
  let text ← line.toList.dropPrefix? "TRACE Key (".toList
  let (row, text) ← readNat? ", " text
  let (col, text) ← readNat? ") debounced, pressed: " text
  let pressed ← [true, false].find? fun pressed => (toString pressed).toList = text
  return { row, col, pressed }

theorem ofLine?_line_accepted (change : Change) :
    ofLine? (Message.accepted change).line = some change := by
  have hpressed : [true, false].find?
      (fun pressed => (toString pressed).toList = (toString change.pressed).toList) =
      some change.pressed := by
    cases change.pressed <;> rfl
  rw [ofLine?, Message.toList_line_accepted, List.dropPrefix?_append_of_beq _ (beq_self_eq_true _)]
  simp only [Option.bind_eq_bind, Option.bind_some]
  rw [readNat?_toString _ _ (by decide)]
  simp only [Option.bind_some]
  rw [readNat?_toString _ _ (by decide)]
  simp only [Option.bind_some]
  rw [hpressed]
  rfl

theorem ofLine?_line_eq_none {message : Message} (h : message.level ≠ .trace) :
    ofLine? message.line = none := by
  have hdropped : message.line.toList.dropPrefix? "TRACE Key (".toList = none := by
    rw [Message.toList_line]
    cases hlevel : message.level with
    | trace => exact absurd hlevel h
    | debug => rfl
    | info => rfl
  rw [ofLine?, hdropped]
  rfl

/-- A line tells whether it reports a change, and which one. -/
theorem ofLine?_line (message : Message) : ofLine? message.line = message.change? := by
  by_cases h : message.level = .trace
  · cases message with
    | accepted change => exact ofLine?_line_accepted change
    | _ => cases h
  · rw [ofLine?_line_eq_none h, Message.change?_eq_none h]

/-- It does not matter whether one looks at the messages or reads the lines. -/
theorem filterMap_ofLine? (messages : List Message) :
    (messages.map Message.line).filterMap ofLine? = messages.filterMap Message.change? := by
  rw [List.filterMap_map]
  exact List.filterMap_congr fun message _ => ofLine?_line message

end Change
end KeyMatrix
