import Intake.Text.Classes
import Intake.Text.Split

/-! The trail of errors that one processing attempt leaves: its entries in the order in which they
arose, and their bounded rendering. -/

namespace Intake

/-- What stands between two entries. -/
def Trail.separator : String := "; "

/-- What marks a message that was cut. -/
def Trail.cutMark : String := "..."

/-- The first `n` characters of a text; a negative `n` leaves out so many at its end. -/
def firstChars (s : String) (n : Int) : String :=
  String.ofList (s.toList.take (if 0 ≤ n then n.toNat else (s.length + n).toNat))

/-- A message of at most `limit` characters; a longer one is cut and marked. -/
def truncated (message : String) (limit : Int) : String :=
  if (message.length : Int) ≤ limit then message
  else firstChars message (limit - Trail.cutMark.length) ++ Trail.cutMark

/-- The errors of an attempt so far. -/
structure Trail where
  limit : Int
  entries : List String := []
  deriving DecidableEq, Repr

namespace Trail

/-- Adds a message, without the blanks around it; a blank message is not added. -/
def add (t : Trail) (message : String) : Trail :=
  if Text.isBlankText message then t else { t with entries := t.entries ++ [Text.trim message] }

def add? (t : Trail) (message : Option String) : Trail :=
  match message with
  | some m => t.add m
  | none => t

/-- The entries as one bounded message; none if there are no entries. -/
def render (t : Trail) : Option String :=
  if t.entries.isEmpty then none else some (truncated (Text.join separator t.entries) t.limit)

end Trail

end Intake
