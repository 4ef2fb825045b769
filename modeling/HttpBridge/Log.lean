namespace HttpBridge

namespace Log

inductive Level
  | error
  | warn
  | info
  | debug
  deriving DecidableEq, Repr

def Level.name : Level → String
  | .error => "ERROR"
  | .warn => "WARN"
  | .info => "INFO"
  | .debug => "DEBUG"

structure Entry where
  level : Level
  message : String
  deriving DecidableEq, Repr

end Log

structure Logged (α : Type) where
  value : α
  log : List Log.Entry
  deriving DecidableEq

namespace Logged

variable {α β : Type}

def pure (a : α) : Logged α := ⟨a, []⟩

def bind (x : Logged α) (f : α → Logged β) : Logged β :=
  let y := f x.value
  ⟨y.value, x.log ++ y.log⟩

instance : Monad Logged where
  pure := Logged.pure
  bind := Logged.bind

@[simp] theorem value_pure (a : α) : (Pure.pure a : Logged α).value = a := rfl

@[simp] theorem value_bind (x : Logged α) (f : α → Logged β) :
    (x >>= f).value = (f x.value).value := rfl

@[simp] theorem value_map (f : α → β) (x : Logged α) : (f <$> x).value = f x.value := rfl

@[simp] theorem log_pure (a : α) : (Pure.pure a : Logged α).log = [] := rfl

@[simp] theorem log_map (f : α → β) (x : Logged α) : (f <$> x).log = x.log :=
  List.append_nil x.log

theorem log_bind (x : Logged α) (f : α → Logged β) :
    (x >>= f).log = x.log ++ (f x.value).log := rfl

instance : LawfulMonad Logged := by
  refine LawfulMonad.mk' Logged ?_ ?_ ?_
  · rintro α ⟨a, log⟩
    exact congrArg (Logged.mk a) (List.append_nil log)
  · intro α β a f
    rfl
  · intro α β γ x f g
    exact congrArg (Logged.mk _) (List.append_assoc ..)

theorem value_mapM (f : α → Logged β) (as : List α) :
    (as.mapM f).value = as.map fun a => (f a).value := by
  induction as with
  | nil => rfl
  | cons a as ih => rw [List.mapM_cons, List.map_cons, ← ih, value_bind, value_bind, value_pure]

def note (level : Log.Level) (message : String) : Logged Unit :=
  ⟨(), [⟨level, message⟩]⟩

def error (message : String) : Logged Unit := note .error message

def warn (message : String) : Logged Unit := note .warn message

def info (message : String) : Logged Unit := note .info message

def debug (message : String) : Logged Unit := note .debug message

end Logged

end HttpBridge
