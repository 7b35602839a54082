/-
Calls that run one after the other, to their end or not.

`exec` runs a program that never waits to its end.  A crash, or a database that refuses the next
window, leaves a call where it is: `storeAfter` and `resultAfter` say what there is after a
number of its windows.  With enough windows a call has come to its end.
-/
import ControlPlane.Lib.Concurrent

namespace ControlPlane

namespace Prog

variable {σ ε α β : Type}

/-- The result of a program that never waits, and the store it leaves. -/
def exec : Prog σ ε α → σ → Except ε α × σ
  | ret a, s => (.ok a, s)
  | raise e, s => (.error e, s)
  | window _ act next, s => exec (next s) (act s)

/-- The store when a program has run `n` windows. -/
def storeAfter : Nat → Prog σ ε α → σ → σ
  | n + 1, window _ act next, s => storeAfter n (next s) (act s)
  | _, _, s => s

/-- The result of a program that has come to its end within `n` windows. -/
def resultAfter : Nat → Prog σ ε α → σ → Option (Except ε α)
  | _, ret a, _ => some (.ok a)
  | _, raise e, _ => some (.error e)
  | n + 1, window _ act next, s => resultAfter n (next s) (act s)
  | 0, window .., _ => none

/-- The order in which a sequence is put together does not matter. -/
@[simp] theorem bind_bind {γ : Type} (f : α → Prog σ ε β) (g : β → Prog σ ε γ) :
    ∀ p : Prog σ ε α, (p.bind f).bind g = p.bind fun a => (f a).bind g
  | ret _ => rfl
  | raise _ => rfl
  | window ready act next => congrArg (window ready act) (funext fun s => bind_bind f g (next s))

@[simp] theorem exec_ret (a : α) (s : σ) : (ret a : Prog σ ε α).exec s = (.ok a, s) := rfl

@[simp] theorem exec_raise (e : ε) (s : σ) : (raise e : Prog σ ε α).exec s = (.error e, s) := rfl

@[simp] theorem exec_read_bind (f : σ → α) (g : α → Prog σ ε β) (s : σ) :
    ((read f).bind g).exec s = (g (f s)).exec s := rfl

@[simp] theorem exec_update_bind (f : σ → α × σ) (g : α → Prog σ ε β) (s : σ) :
    ((update f).bind g).exec s = (g (f s).1).exec (f s).2 := rfl

@[simp] theorem exec_update (f : σ → α × σ) (s : σ) :
    (update f : Prog σ ε α).exec s = (.ok (f s).1, (f s).2) := rfl

/-- A value that was computed without the store, before the rest. -/
@[simp] theorem exec_ofExcept_bind (x : Except ε α) (g : α → Prog σ ε β) (s : σ) :
    ((ofExcept x).bind g).exec s = match x with
      | .ok a => (g a).exec s
      | .error e => (.error e, s) := by
  cases x <;> rfl

@[simp] theorem storeAfter_zero (p : Prog σ ε α) (s : σ) : storeAfter 0 p s = s := by
  cases p <;> rfl

@[simp] theorem storeAfter_ret (n : Nat) (a : α) (s : σ) :
    storeAfter n (ret a : Prog σ ε α) s = s := by
  cases n <;> rfl

@[simp] theorem storeAfter_raise (n : Nat) (e : ε) (s : σ) :
    storeAfter n (raise e : Prog σ ε α) s = s := by
  cases n <;> rfl

@[simp] theorem storeAfter_read_bind (n : Nat) (f : σ → α) (g : α → Prog σ ε β) (s : σ) :
    storeAfter (n + 1) ((read f).bind g) s = storeAfter n (g (f s)) s := rfl

@[simp] theorem storeAfter_update_bind (n : Nat) (f : σ → α × σ) (g : α → Prog σ ε β) (s : σ) :
    storeAfter (n + 1) ((update f).bind g) s = storeAfter n (g (f s).1) (f s).2 := rfl

@[simp] theorem storeAfter_update (n : Nat) (f : σ → α × σ) (s : σ) :
    storeAfter (n + 1) (update f : Prog σ ε α) s = (f s).2 :=
  storeAfter_ret n _ _

@[simp] theorem storeAfter_ofExcept_bind (n : Nat) (x : Except ε α) (g : α → Prog σ ε β) (s : σ) :
    storeAfter n ((ofExcept x).bind g) s = match x with
      | .ok a => storeAfter n (g a) s
      | .error _ => s := by
  cases x with
  | ok a => rfl
  | error e => exact storeAfter_raise n e s

/-- A call that has come to its end has the store that it leaves. -/
theorem exec_of_resultAfter {r : Except ε α} :
    ∀ {n : Nat} {p : Prog σ ε α} {s : σ}, resultAfter n p s = some r →
      p.exec s = (r, storeAfter n p s)
  | n, ret a, s, h => by
      obtain rfl : .ok a = r := by cases n <;> exact Option.some.inj h
      rw [storeAfter_ret]
      rfl
  | n, raise e, s, h => by
      obtain rfl : .error e = r := by cases n <;> exact Option.some.inj h
      rw [storeAfter_raise]
      rfl
  | 0, window .., s, h => by cases h
  | n + 1, window _ act next, s, h =>
      exec_of_resultAfter (n := n) (p := next s) (s := act s) h

end Prog

end ControlPlane
