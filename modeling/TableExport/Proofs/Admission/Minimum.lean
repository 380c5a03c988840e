import TableExport.Proofs.Admission.Staleness
import TableExport.Proofs.Admission.Windows
import TableExport.Proofs.Calendar.Doubling

/-!
The oldest partition that may still be exported, where options name none. It lies
twice the months and then twice the days of the period before the reference time,
on the same clock and at the same time of day. The counts of the period pass
through binary numbers on the way, which changes no minimum inside the calendar.
Candidates with a minimum of their own are not considered.
-/

set_option autoImplicit false

namespace TableExport.Candidate

open TableExport.Text
open TableExport.Calendar
open TableExport.Condition

variable {options : Options} {now threshold : Instant} {candidate : Candidate}
  {months days : Int}

theorem holds_of_denotes (resolved : ofOptions options now = .ok candidate)
    (denoted : PeriodDenotes options months days) :
    months = candidate.partitionPeriod.totalMonths ∧ days = candidate.partitionPeriod.days := by
  have read := (ofOptions_ok resolved).2.1
  rcases denoted with ⟨absent, rfl, rfl⟩ | ⟨literal, given, denotes⟩
  · rw [absent] at read
    rw [← Except.ok.inj read]
    exact ⟨rfl, rfl⟩
  · rw [given] at read
    exact (Literal.denotes_iff ((Sequence.mapError_ok_iff _ _ _).mp read)).mp denotes

private theorem minimum_of_none (noMinimum : candidate.minPartition = none) :
    candidate.minimum =
      (candidate.partitionPeriod.doubled >>= fun twice => twice.takenFrom candidate.now) := by
  unfold minimum
  rw [noMinimum]

/-- Without a minimum of its own a candidate has one exactly when the calendar holds the
instant twice the denoted months and then twice the denoted days before the reference time,
and it is this instant, to the microsecond. -/
theorem minimum_ok_iff_twice_before (resolved : ofOptions options now = .ok candidate)
    (noMinimum : options.minPartition = none) (denoted : PeriodDenotes options months days) :
    candidate.minimum = .ok threshold ↔
      now.date.IsShifted (-2 * months) (-2 * days) threshold.date ∧
        threshold.micros = now.micros ∧ threshold.offset = now.offset := by
  have sameNow := (sameOptions_of_options resolved resolved).2
  obtain ⟨rfl, rfl⟩ := holds_of_denotes resolved denoted
  rw [minimum_of_none (noMinimum_of_options resolved noMinimum), sameNow]
  exact Period.doubled_takenFrom_ok_iff

def mixedOptions : Options :=
  { februaryOptions with partitionPeriod := some (.value "-P-1Y+11M-2W") }

def mixedPeriod : Period :=
  (Literal.readPeriod (some "-P-1Y+11M-2W")).toOption.get (by decide +kernel)

def mixedCandidate (now : Instant) : Candidate :=
  { februaryCandidate now with
    options := mixedOptions
    partitionPeriod := mixedPeriod }

/-- Years and months of opposite signs, and a month that is too short on the way back. -/
theorem minimum_ok_iff_twice_before_mixed :
    ofOptions mixedOptions (lastOfApril.atHour 23) = .ok (mixedCandidate (lastOfApril.atHour 23)) ∧
      Literal.Denotes "-P-1Y+11M-2W" 1 14 ∧
      (mixedCandidate (lastOfApril.atHour 23)).minimum = .ok (Query.lastOfJanuary.atHour 23) ∧
      lastOfApril.IsShifted (-2) (-28) Query.lastOfJanuary := by
  have read : Literal.readPeriod (some "-P-1Y+11M-2W") = .ok mixedPeriod :=
    Sequence.ok_of_toOption (by decide +kernel)
  have denotes : Literal.Denotes "-P-1Y+11M-2W" 1 14 :=
    (Literal.denotes_iff read).mpr (by decide +kernel)
  have resolved : ofOptions mixedOptions (lastOfApril.atHour 23) =
      .ok (mixedCandidate (lastOfApril.atHour 23)) :=
    Sequence.ok_of_toOption (by decide +kernel)
  have found : (mixedCandidate (lastOfApril.atHour 23)).minimum =
      .ok (Query.lastOfJanuary.atHour 23) :=
    Sequence.ok_of_toOption (by decide +kernel)
  have before := (minimum_ok_iff_twice_before resolved rfl (.inr ⟨_, rfl, denotes⟩)).mp found
  exact ⟨resolved, denotes, found, before.1⟩

end TableExport.Candidate
