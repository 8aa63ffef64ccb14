import PolySql.Failure.Classifier
import PolySql.Proofs.Text.Phrase

namespace PolySql

open Text

inductive FailureMatcher.Matches (f : DriverFailure) : FailureMatcher → Prop
  | message {phrases : List Phrase} {p : Phrase} :
    p ∈ phrases → p.StandsIn f.message → Matches f (.message phrases)
  | sqlState {opening state : String} : f.sqlState = some state → opening.toList <+: state.toList →
    Matches f (.sqlState opening)
  | code {n : Int} : f.code = some n → Matches f (.code n)

inductive Classifier.Tells (f : DriverFailure) : Classifier → FailureKind → Prop
  | first {before rest : Classifier} {rule : FailureRule} :
    (∀ earlier ∈ before, ¬ earlier.matcher.Matches f) → rule.matcher.Matches f →
      Tells f (before ++ rule :: rest) rule.kind
  | unmatched {rules : Classifier} : (∀ rule ∈ rules, ¬ rule.matcher.Matches f) →
    Tells f rules .statementInvalid

theorem FailureMatcher.fits_iff (m : FailureMatcher) (f : DriverFailure) :
    m.fits f = true ↔ m.Matches f := by
  cases m with
  | message phrases =>
    simp only [fits, List.any_eq_true, Phrase.occursIn_iff]
    exact ⟨fun ⟨_, hmem, hp⟩ => .message hmem hp, fun | .message hmem hp => ⟨_, hmem, hp⟩⟩
  | sqlState opening =>
    simp only [fits, Option.any_eq_true, startsWith_iff]
    exact ⟨fun ⟨_, hstate, hopening⟩ => .sqlState hstate hopening,
      fun | .sqlState hstate hopening => ⟨_, hstate, hopening⟩⟩
  | code n =>
    simp only [fits, beq_iff_eq]
    exact ⟨.code, fun | .code h => h⟩

theorem Classifier.tells_classify (rules : Classifier) (f : DriverFailure) :
    rules.Tells f (rules.classify f) := by
  unfold classify
  split
  · rename_i rule hfind
    obtain ⟨hrule, before, rest, rfl, hbefore⟩ := List.find?_eq_some_iff_append.1 hfind
    refine .first (fun earlier hmem => ?_) ((rule.matcher.fits_iff f).1 hrule)
    simpa [← FailureMatcher.fits_iff] using hbefore earlier hmem
  · rename_i hfind
    refine .unmatched fun rule hmem => ?_
    simpa [← FailureMatcher.fits_iff] using List.find?_eq_none.1 hfind rule hmem

end PolySql
