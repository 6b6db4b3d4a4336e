import Intake.Proofs.Attempt.Exchange

/-! How far the exchanges with its store bring an attempt, and which calls it may make from there: a
header under an identity of its own, then lines of that header, then the record of a success that counts
those lines. Records of anything else, and questions about rules, may come at any time. -/

namespace Intake

/-- How far an attempt has come with its store: no header has been handed over; the header came back
as `header`, and `count` lines have been kept for it; or there is nothing that it could go on with. -/
inductive Progress
  | opening
  | headed (header : Record) (count : Nat)
  | spent

namespace Progress

/-- How far an exchange brings an attempt. -/
def after : Progress → Exchange → Progress
  | opening, .saveHeader _ (.ok (some header)) =>
    if header.id?.isSome then headed header 0 else spent
  | opening, .saveHeader _ _ => spent
  | headed header count, .saveLines lines (.ok ()) => headed header (count + lines.length)
  | headed _ _, .saveLines _ (.error _) => spent
  | headed header count, .record o _ => if o.status = .success then spent else headed header count
  | p, _ => p

theorem after_record {p : Progress} {o : Outcome} (answer : Except String (Option Outcome))
    (hOther : o.status ≠ .success) : p.after (.record o answer) = p := by
  cases p with
  | headed header count => exact if_neg hOther
  | _ => rfl

/-- How far exchanges bring an attempt, one after the other. -/
def afterAll (p : Progress) (es : List Exchange) : Progress := es.foldl after p

@[simp] theorem afterAll_nil (p : Progress) : p.afterAll [] = p := rfl

@[simp] theorem afterAll_cons (p : Progress) (e : Exchange) (es : List Exchange) :
    p.afterAll (e :: es) = (p.after e).afterAll es := rfl

theorem afterAll_append (p : Progress) (es es' : List Exchange) :
    p.afterAll (es ++ es') = (p.afterAll es).afterAll es' := List.foldl_append

/-- The record of an attempt names the header that came back and counts its lines. -/
def RecordedBy (p : Progress) (o : Outcome) : Prop :=
  ∃ header count, p = headed header count ∧ o.headerId = header.id? ∧ o.lineCount = count

theorem RecordedBy.after {p : Progress} {o : Outcome} (h : p.RecordedBy o)
    (answer : Except String (Option Outcome)) (hSuccess : o.status = .success) :
    p.after (.record o answer) = .spent := by
  obtain ⟨header, count, rfl, -, -⟩ := h
  exact if_pos hSuccess

end Progress

/-- An attempt at a document of a kind for an owner, which may give the identities from `low` on and
below `high` to headers. -/
structure Writer where
  kind : DocumentKind
  clientId : Option Int
  low : Nat
  high : Nat

namespace Writer

/-- A line that a writer makes for a header. -/
structure LineFor (w : Writer) (header line : Record) : Prop where
  type : line.type = w.kind.lineType
  headerId : line.get? "header_id" = header.id?.map .identifier
  owner : line.get? "client_id" = (w.clientId <|> header.clientId?).map .whole

/-- The exchanges that a writer may have from where it has come to. -/
inductive Allows (w : Writer) : Progress → Exchange → Prop
  | rules {p : Progress} {interfaceId : Option Nat} {table : String}
      (answer : Except String (Option (List Rule))) : Allows w p (.rules interfaceId table answer)
  | record {p : Progress} {o : Outcome} (answer : Except String (Option Outcome)) :
      o.status ≠ .success → Allows w p (.record o answer)
  | success {p : Progress} {o : Outcome} (answer : Except String (Option Outcome)) :
      p.RecordedBy o → o.kindTag = some w.kind.tag → o.clientId = w.clientId →
      Allows w p (.record o answer)
  | saveHeader {header : Record} {id : Nat} (answer : Except String (Option Record)) :
      header.type = w.kind.headerType → header.get? "id" = some (.identifier id) →
      w.low ≤ id → id < w.high → header.get? "client_id" = w.clientId.map .whole →
      Allows w .opening (.saveHeader header answer)
  | saveLines {header : Record} {count : Nat} {lines : List Record}
      (answer : Except String Unit) : (∀ line ∈ lines, w.LineFor header line) →
      Allows w (.headed header count) (.saveLines lines answer)

/-- Exchanges each of which a writer may have once it has had those before. -/
def AllowsAll (w : Writer) : Progress → List Exchange → Prop
  | _, [] => True
  | p, e :: es => w.Allows p e ∧ w.AllowsAll (p.after e) es

theorem allowsAll_append {w : Writer} {p : Progress} {es es' : List Exchange} :
    w.AllowsAll p (es ++ es') ↔ w.AllowsAll p es ∧ w.AllowsAll (p.afterAll es) es' := by
  induction es generalizing p with
  | nil => simp [AllowsAll]
  | cons e es ih => simp [AllowsAll, ih, and_assoc]

end Writer

end Intake
