import Intake.Json.Basic

/-! Log entries, and results that come with the entries that were made on the way to them. -/

namespace Intake

namespace Log

/-- How much an entry matters. -/
inductive Level where
  | debug | info | warning | error | critical
  deriving DecidableEq, Repr

namespace Level

def rank : Level → Nat
  | debug => 10
  | info => 20
  | warning => 30
  | error => 40
  | critical => 50

def name : Level → String
  | debug => "DEBUG"
  | info => "INFO"
  | warning => "WARNING"
  | error => "ERROR"
  | critical => "CRITICAL"

end Level

/-- The part of the program that makes an entry. -/
inductive Origin where
  | paths | documents | dates | binding | rules | attempts | service | database | storage
  | loading | commands
  deriving DecidableEq, Repr

/-- The name of the log that a part of the program writes to. -/
def Origin.name : Origin → String
  | paths => "docmapper.processors.path_evaluator"
  | documents => "docmapper.processors.document_parser"
  | dates => "docmapper.utils.date_utils"
  | binding => "docmapper.services.field_binder"
  | rules => "docmapper.services.rule_resolver"
  | attempts => "docmapper.strategies.base_strategy"
  | service => "docmapper.DocumentProcessingService"
  | database => "docmapper.infrastructure.db.connection"
  | storage => "docmapper.infrastructure.db.document_repository_impl"
  | loading => "docmapper.infrastructure.db.seeds"
  | commands => "docmapper.interfaces.cli.commands.base"

/-- An entry: where it comes from, its level, its message, and further fields. -/
structure Entry where
  origin : Origin
  level : Level
  message : String
  fields : List (String × Json) := []
  deriving Repr

/-- The entries that matter at least as much as `level`. -/
def atLeast (level : Level) (log : List Entry) : List Entry :=
  log.filter fun e => level.rank ≤ e.level.rank

end Log

/-- A value and the entries that were made on the way to it. -/
structure Logged (α : Type) where
  value : α
  log : List Log.Entry := []
  deriving Repr

namespace Logged

instance : Monad Logged where
  pure a := ⟨a, []⟩
  bind x f := ⟨(f x.value).value, x.log ++ (f x.value).log⟩

def note (origin : Log.Origin) (level : Log.Level) (message : String)
    (fields : List (String × Json) := []) : Logged Unit :=
  ⟨(), [⟨origin, level, message, fields⟩]⟩

@[simp] theorem value_pure {α : Type} (a : α) : (pure a : Logged α).value = a := rfl

@[simp] theorem value_bind {α β : Type} (x : Logged α) (f : α → Logged β) :
    (x >>= f).value = (f x.value).value := rfl

instance : LawfulMonad Logged := LawfulMonad.mk' Logged
  (by intro α x; rcases x with ⟨a, log⟩; simp [Functor.map])
  (by intro α β a f; simp [bind, pure])
  (by intro α β γ x f g; simp [bind])

end Logged

end Intake
