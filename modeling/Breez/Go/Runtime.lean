import Mathlib.Data.List.Basic

set_option autoImplicit false

namespace Breez.Go

-- A Go string that is parsed byte by byte: `len`, indexing and `[]byte(s)` all see bytes.
abbrev Bytes := List UInt8

-- Go's `[32]byte`: digests, payment hashes and chainhash.Hash.
structure Bytes32 where
  bytes : Bytes
  length_eq : bytes.length = 32
  deriving DecidableEq

@[simp] theorem Bytes32.bytes_inj (a b : Bytes32) : a.bytes = b.bytes ↔ a = b := by
  cases a; cases b; simp

-- The run-time failures of the modelled code; a panic is a result, not a Lean error.
inductive Panic where
  | nilDereference
  | indexOutOfRange (index length : Nat)
  deriving DecidableEq, Repr

-- A Go call returns a value, returns a non-nil error, or panics.
inductive Outcome (α : Type) where
  | ok (value : α)
  | error (message : String)
  | panic (cause : Panic)
  deriving DecidableEq, Repr

namespace Outcome

variable {α β : Type}

def bind : Outcome α → (α → Outcome β) → Outcome β
  | ok a, f => f a
  | error m, _ => error m
  | panic p, _ => panic p

instance : Monad Outcome where
  pure := ok
  bind := bind

@[simp] theorem pure_eq (a : α) : (pure a : Outcome α) = ok a := rfl

@[simp] theorem ok_bind (a : α) (f : α → Outcome β) : (ok a >>= f) = f a := rfl

@[simp] theorem error_bind (m : String) (f : α → Outcome β) : (error m >>= f) = error m := rfl

@[simp] theorem panic_bind (p : Panic) (f : α → Outcome β) : (panic p >>= f) = panic p := rfl

theorem bind_eq_ok {x : Outcome α} {f : α → Outcome β} {b : β} :
    (x >>= f) = ok b ↔ ∃ a, x = ok a ∧ f a = ok b := by
  cases x <;> simp

-- Go's `if err != nil { return nil, err }` for a library call that reports an error.
def ofExcept : Except String α → Outcome α
  | .ok a => ok a
  | .error m => error m

@[simp] theorem ofExcept_ok (a : α) : ofExcept (.ok a : Except String α) = ok a := rfl

@[simp] theorem ofExcept_error (m : String) : ofExcept (.error m : Except String α) = error m := rfl

@[simp] theorem ofExcept_eq_ok (e : Except String α) (a : α) : ofExcept e = ok a ↔ e = .ok a := by
  cases e <;> simp [ofExcept]

-- `if err != nil { return nil, fmt.Errorf(... %v, err) }`, the error text wrapped.
def ofExceptWith (wrap : String → String) : Except String α → Outcome α
  | .ok a => ok a
  | .error m => error (wrap m)

@[simp] theorem ofExceptWith_ok (wrap : String → String) (a : α) :
    ofExceptWith wrap (.ok a : Except String α) = ok a := rfl

@[simp] theorem ofExceptWith_error (wrap : String → String) (m : String) :
    ofExceptWith wrap (.error m : Except String α) = error (wrap m) := rfl

@[simp] theorem ofExceptWith_eq_ok (wrap : String → String) (e : Except String α) (a : α) :
    ofExceptWith wrap e = ok a ↔ e = .ok a := by
  cases e <;> simp [ofExceptWith]

-- `if err != nil { return fmt.Errorf(... %w, err) }` around a call of the modelled code.
def mapError (wrap : String → String) : Outcome α → Outcome α
  | ok a => ok a
  | error m => error (wrap m)
  | panic p => panic p

@[simp] theorem mapError_ok (wrap : String → String) (a : α) : (ok a).mapError wrap = ok a := rfl

@[simp] theorem mapError_error (wrap : String → String) (m : String) :
    (error m : Outcome α).mapError wrap = error (wrap m) := rfl

@[simp] theorem mapError_panic (wrap : String → String) (p : Panic) :
    (panic p : Outcome α).mapError wrap = panic p := rfl

@[simp] theorem mapError_eq_ok (wrap : String → String) (x : Outcome α) (a : α) :
    x.mapError wrap = ok a ↔ x = ok a := by
  cases x <;> simp [mapError]

def isPanic : Outcome α → Bool
  | panic _ => true
  | _ => false

def isOk : Outcome α → Bool
  | ok _ => true
  | _ => false

@[simp] theorem isPanic_ok (a : α) : (ok a).isPanic = false := rfl
@[simp] theorem isPanic_error (m : String) : (error m : Outcome α).isPanic = false := rfl
@[simp] theorem isPanic_panic (p : Panic) : (panic p : Outcome α).isPanic = true := rfl

@[simp] theorem isPanic_bind_ok (x : Outcome α) (f : α → β) :
    (x >>= fun a => ok (f a)).isPanic = x.isPanic := by
  cases x <;> rfl

end Outcome

@[simp] theorem except_mapError_eq_ok {ε ε' α : Type} (f : ε → ε') (e : Except ε α) (a : α) :
    e.mapError f = .ok a ↔ e = .ok a := by
  cases e <;> simp [Except.mapError]

-- `if cond { return nil, errors.New(message) }`
def failIf (cond : Prop) [Decidable cond] (message : String) : Outcome Unit :=
  if cond then .error message else pure ()

-- `if p == nil { return nil, errors.New(message) }`, then `*p`.
def orError {α : Type} (message : String) : Option α → Outcome α
  | some a => .ok a
  | none => .error message

@[simp] theorem failIf_eq_ok (cond : Prop) [Decidable cond] (message : String) (u : Unit) :
    failIf cond message = .ok u ↔ ¬cond := by
  by_cases c : cond <;> simp [failIf, c]

@[simp] theorem failIf_bind {β : Type} (cond : Prop) [Decidable cond] (message : String)
    (f : Unit → Outcome β) : failIf cond message >>= f = if cond then .error message else f () := by
  by_cases c : cond <;> simp [failIf, c]

@[simp] theorem ite_error_eq_ok {β : Type} (cond : Prop) [Decidable cond] (message : String)
    (x : Outcome β) (b : β) : (if cond then .error message else x) = .ok b ↔ ¬cond ∧ x = .ok b := by
  by_cases c : cond <;> simp [c]

@[simp] theorem ite_eq_ok_error {β : Type} (cond : Prop) [Decidable cond] (message : String)
    (x : Outcome β) (b : β) : (if cond then x else .error message) = .ok b ↔ cond ∧ x = .ok b := by
  by_cases c : cond <;> simp [c]

@[simp] theorem orError_some {α : Type} (message : String) (a : α) :
    orError message (some a) = .ok a := rfl

@[simp] theorem orError_none {α : Type} (message : String) :
    orError message (none : Option α) = .error message := rfl

@[simp] theorem orError_eq_ok {α : Type} (message : String) (o : Option α) (a : α) :
    orError message o = .ok a ↔ o = some a := by
  cases o <;> simp [orError]

theorem exists_some_and_eq {α : Type} (o : Option α) (v : α) (p : α → Prop) :
    (∃ x, o = some x ∧ v = x ∧ p x) ↔ o = some v ∧ p v := by
  constructor
  · rintro ⟨x, found, rfl, holds⟩
    exact ⟨found, holds⟩
  · rintro ⟨found, holds⟩
    exact ⟨v, found, rfl, holds⟩

-- Go's `xs[i]`, which panics past the end of the slice.
def index {α : Type} (xs : List α) (i : Nat) : Outcome α :=
  match xs[i]? with
  | some x => .ok x
  | none => .panic (.indexOutOfRange i xs.length)

-- Go's `*p`, which panics on a nil pointer.
def deref {α : Type} : Option α → Outcome α
  | some x => .ok x
  | none => .panic .nilDereference

theorem index_of_lt {α : Type} (xs : List α) (i : Nat) (within : i < xs.length) :
    index xs i = .ok xs[i] := by
  simp [index, List.getElem?_eq_getElem within]

theorem index_of_le {α : Type} (xs : List α) (i : Nat) (past : xs.length ≤ i) :
    index xs i = .panic (.indexOutOfRange i xs.length) := by
  simp [index, List.getElem?_eq_none past]

@[simp] theorem deref_eq_ok {α : Type} (o : Option α) (a : α) : deref o = .ok a ↔ o = some a := by
  cases o <;> simp [deref]

@[simp] theorem deref_some {α : Type} (a : α) : deref (some a) = .ok a := rfl

@[simp] theorem deref_none {α : Type} : deref (none : Option α) = .panic .nilDereference := rfl

end Breez.Go

namespace Breez

-- `[]byte(s)` for a Go string that holds UTF-8 text.
def goBytes (s : String) : Go.Bytes :=
  s.data.flatMap String.utf8EncodeChar

theorem goBytes_append (a b : String) : goBytes (a ++ b) = goBytes a ++ goBytes b :=
  List.flatMap_append _ _ _

end Breez
