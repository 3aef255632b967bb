import ReliableTransport.Proofs.Transience
/-!
This module says where the verdict on a failure comes from. A failure names at most one cause, and a
socket error that holds another failure names the cause of that one. A failure is transient exactly
if the way from it along the causes comes to a socket error whose kind says that a connection broke.
What only names a cause does not change the verdict, and what a socket error holds is never met.
-/

namespace ReliableTransport

/-- The kinds that say that a connection broke. -/
def IoKind.broken : List IoKind := [connectionReset, notConnected, connectionAborted, brokenPipe]

theorem IoKind.isTransient_iff (kind : IoKind) : kind.isTransient = true ↔ kind ∈ broken := by
  cases kind <;> decide

namespace Failure

/-- The failure below contexts. The first context is the innermost one. -/
def within (failure : Failure) : List String → Failure
  | [] => failure
  | text :: outer => (context text failure).within outer

/-- The cause of a failure. The cause of a socket error is that of the failure that it holds. -/
def source? (failure : Failure) : Option Failure := failure.content.cause?

theorem source?_ioHolding (kind : IoKind) (held : Failure) :
    (ioHolding kind held).source? = held.source? := rfl

/-- The way from a failure along the causes comes to another failure. -/
inductive Meets (failure : Failure) : Failure → Prop where
  | itself : Meets failure failure
  | onward {link cause : Failure} (met : Meets failure link) (named : link.source? = some cause) :
      Meets failure cause

/-- A socket error whose kind says that a connection broke. -/
def IsBroken (failure : Failure) : Prop :=
  ∃ kind, failure.ioKind? = some kind ∧ kind ∈ IoKind.broken

theorem isTransientIo_iff (failure : Failure) :
    failure.isTransientIo = true ↔ failure.IsBroken := by
  rw [isTransientIo, Option.any_eq_true, IsBroken]
  simp only [IoKind.isTransient_iff]

section Way

variable {failure cause link : Failure}

/-- The way from a cause is a part of the way from the failure that names it. -/
theorem Meets.behind (named : failure.source? = some cause) (met : cause.Meets link) :
    failure.Meets link := by
  induction met with
  | itself => exact .onward .itself named
  | onward _ further ih => exact .onward ih further

/-- The way begins with the failure itself and goes on from its cause. -/
theorem meets_iff :
    failure.Meets link ↔
      link = failure ∨ ∃ cause, failure.source? = some cause ∧ cause.Meets link := by
  constructor
  · intro met
    induction met with
    | itself => exact .inl rfl
    | @onward middle last _ named ih =>
        right
        rcases ih with rfl | ⟨cause, first, met⟩
        · exact ⟨last, named, .itself⟩
        · exact ⟨cause, first, .onward met named⟩
  · rintro (rfl | ⟨cause, named, met⟩)
    · exact .itself
    · exact met.behind named

/-- The causes of a failure are what the way from its cause comes to. A socket error that holds a
failure has the causes of that failure, so the failure itself is not among them. -/
theorem mem_causes_iff :
    link ∈ failure.causes ↔ ∃ cause, failure.source? = some cause ∧ cause.Meets link := by
  have leaf {failure : Failure} (bare : failure.causes = []) (unnamed : failure.source? = none) :
      link ∈ failure.causes ↔ ∃ cause, failure.source? = some cause ∧ cause.Meets link := by
    rw [bare, unnamed]
    simp
  have wrapped {inner : Failure}
      (ih : link ∈ inner.causes ↔ ∃ cause, inner.source? = some cause ∧ cause.Meets link) :
      link ∈ inner.chain ↔ ∃ cause, some inner = some cause ∧ cause.Meets link := by
    rw [chain, List.mem_cons, ih, ← meets_iff]
    simp
  -- The way passes over what a socket error holds, so the induction is on the failure instead.
  induction failure with
  | ioHolding kind held ih => exact ih
  | caused text cause ih => exact wrapped ih
  | context text inner ih => exact wrapped ih
  | io kind => exact leaf rfl rfl
  | ioText kind text => exact leaf rfl rfl
  | malformedFrame fault => exact leaf rfl rfl
  | timeout limit operation => exact leaf rfl rfl
  | invalidOperation misuse => exact leaf rfl rfl
  | plain text => exact leaf rfl rfl

/-- The chain of a failure is what the way from it comes to. -/
theorem mem_chain_iff : link ∈ failure.chain ↔ failure.Meets link := by
  rw [chain, List.mem_cons, mem_causes_iff, ← meets_iff]

end Way

/-- A failure is transient if the way from it comes to a broken connection. -/
theorem isTransient_iff (failure : Failure) :
    failure.isTransient = true ↔ ∃ link, failure.Meets link ∧ link.IsBroken := by
  simp only [isTransient, List.any_eq_true, mem_chain_iff, isTransientIo_iff]

/-- A failure is transient by itself or by its cause. -/
theorem isTransient_iff_source? (failure : Failure) :
    failure.isTransient = true ↔
      failure.IsBroken ∨ ∃ cause, failure.source? = some cause ∧ cause.isTransient = true := by
  rw [isTransient_eq, Bool.or_eq_true, isTransientIo_iff, Option.any_eq_true, source?]

/-- A failure that is no socket error is as transient as its cause. -/
theorem isTransient_of_source? {failure cause : Failure} (named : failure.source? = some cause)
    (foreign : failure.ioKind? = none) : failure.isTransient = cause.isTransient := by
  rw [Bool.eq_iff_iff, isTransient_iff_source?, named, IsBroken, foreign]
  simp

theorem isTransient_within (failure : Failure) (texts : List String) :
    (failure.within texts).isTransient = failure.isTransient := by
  induction texts generalizing failure with
  | nil => rfl
  | cons text outer ih =>
      calc
        _ = (context text failure).isTransient := ih (context text failure)
        _ = failure.isTransient := isTransient_of_source? rfl rfl

/-- Contexts around a failure and failures that name it as their cause leave the verdict as it is. A
socket error that holds a failure is transient exactly if its own kind says that a connection broke
or the cause of what it holds, if there is one, is transient. So a failure is transient exactly if a
link of its chain is a socket error of such a kind. The links of the chain are the failures that the
way along the causes comes to. -/
theorem transience_along_chain (failure : Failure) :
    (∀ texts, (failure.within texts).isTransient = failure.isTransient) ∧
      (∀ text, (caused text failure).isTransient = failure.isTransient) ∧
      (∀ kind, (ioHolding kind failure).isTransient = true ↔
        kind ∈ IoKind.broken ∨
          ∃ cause, failure.source? = some cause ∧ cause.isTransient = true) ∧
      (∀ link, link ∈ failure.chain ↔ failure.Meets link) ∧
      (failure.isTransient = true ↔ ∃ link ∈ failure.chain, link.IsBroken) := by
  refine ⟨failure.isTransient_within, fun text => isTransient_of_source? rfl rfl, fun kind => ?_,
    fun link => mem_chain_iff, ?_⟩
  · rw [isTransient_iff_source?, source?_ioHolding, IsBroken]
    simp [ioKind?]
  · rw [isTransient_iff]
    simp only [mem_chain_iff]

/-- What a socket error holds is passed over, also if a connection broke there. -/
example : (ioHolding .other (.io .connectionReset)).isTransient = false := by decide

end Failure

end ReliableTransport
