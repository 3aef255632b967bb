import ReliableTransport.Settings
/-!
This module says which settings the components take.
-/

namespace ReliableTransport

/-- An outbox takes settings whose frames have room for a message and whose passes are not empty. -/
theorem OutboxSettings.check_ok_iff (settings : OutboxSettings) :
    settings.check = .ok () ↔
      8 < settings.packageSize ∧ settings.packageSize ≤ Bytes.maxWord ∧
        0 < settings.messagesPerPass := by
  simp only [check, bind, Except.bind, pure, Except.pure, throw, throwThe, MonadExceptOf.throw]
  by_cases small : settings.packageSize ≤ 8
  · simp only [if_pos small, reduceCtorEq, false_iff]
    omega
  · by_cases big : Bytes.maxWord < settings.packageSize
    · simp only [if_neg small, if_pos big, reduceCtorEq, false_iff]
      omega
    · by_cases empty : settings.messagesPerPass = 0
      · simp only [if_neg small, if_neg big, if_pos empty, reduceCtorEq, false_iff]
        omega
      · simp only [if_neg small, if_neg big, if_neg empty, true_iff]
        omega

/-- An inbox takes settings whose passes are not empty. -/
theorem InboxSettings.check_ok_iff (settings : InboxSettings) :
    settings.check = .ok () ↔ 0 < settings.packagesPerPass := by
  simp only [check, throw, throwThe, MonadExceptOf.throw]
  by_cases empty : settings.packagesPerPass = 0
  · simp only [if_pos empty, reduceCtorEq, false_iff]
    omega
  · simp only [if_neg empty, pure, Except.pure, true_iff]
    omega

/-- A listening socket takes datagrams whose length can be written, and not only empty ones. -/
theorem ReceiveLimits.check_ok_iff (limits : ReceiveLimits) :
    limits.check = .ok () ↔ 0 < limits.maxDatagram ∧ limits.maxDatagram ≤ Bytes.maxWord := by
  simp only [check, bind, Except.bind, pure, Except.pure, throw, throwThe, MonadExceptOf.throw]
  by_cases empty : limits.maxDatagram = 0
  · simp only [if_pos empty, reduceCtorEq, false_iff]
    omega
  · by_cases big : Bytes.maxWord < limits.maxDatagram
    · simp only [if_neg empty, if_pos big, reduceCtorEq, false_iff]
      omega
    · simp only [if_neg empty, if_neg big, true_iff]
      omega

end ReliableTransport
