namespace FlowPlan

inductive LogLevel where
  | warn
  | info
  | debug
  | trace
deriving DecidableEq

namespace LogLevel

def label : LogLevel → String
  | .warn => "WARN"
  | .info => "INFO"
  | .debug => "DEBUG"
  | .trace => "TRACE"

def rank : LogLevel → Nat
  | .warn => 1
  | .info => 2
  | .debug => 3
  | .trace => 4

end LogLevel

structure LogRecord where
  level : LogLevel
  text : String

namespace LogRecord

def line (entry : LogRecord) : String :=
  entry.level.label ++ " " ++ entry.text

end LogRecord

structure Logged (α : Type) where
  value : α
  log : List LogRecord

namespace Logged

instance : Monad Logged where
  pure a := ⟨a, []⟩
  bind x f := ⟨(f x.value).value, x.log ++ (f x.value).log⟩

theorem value_bind {α β : Type} (x : Logged α) (f : α → Logged β) :
    (x >>= f).value = (f x.value).value := rfl

theorem log_bind {α β : Type} (x : Logged α) (f : α → Logged β) :
    (x >>= f).log = x.log ++ (f x.value).log := rfl

instance : LawfulMonad Logged :=
  LawfulMonad.mk' Logged
    (fun _ => by simp [Functor.map])
    (fun _ _ => by simp [bind, pure])
    (fun _ _ _ => by simp [bind])

def note (level : LogLevel) (text : String) : Logged Unit :=
  ⟨(), [⟨level, text⟩]⟩

def lines (level : LogLevel) (log : List LogRecord) : List String :=
  (log.filter fun entry => entry.level.rank ≤ level.rank).map LogRecord.line

end Logged

end FlowPlan
