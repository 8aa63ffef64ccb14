import PolySql.Proofs.Text.Cut
import PolySql.Proofs.Text.Pieces

namespace PolySql.Text

inductive Follow (same : Char → Char → Bool) : List (List Char) → List Char → Prop
  | done (t : List Char) : Follow same [] t
  | word {w v t : List Char} {ws : List (List Char)} (gap : List Char) :
    List.Forall₂ (fun k c => same k c = true) w v → Follow same ws t →
      Follow same (w :: ws) (gap ++ (v ++ t))

section Follow
variable {same : Char → Char → Bool} {w t u r : List Char} {ws : List (List Char)}

theorem Follow.of_infix (h : Follow same ws t) (ht : t <:+: u) : Follow same ws u := by
  obtain ⟨front, back, rfl⟩ := ht
  induction h generalizing front with
  | done t => exact .done _
  | @word w v t ws gap hv _ ih =>
    have hrest := ih []
    rw [List.nil_append] at hrest
    have hword := Follow.word (front ++ gap) hv hrest
    simpa only [List.append_assoc] using hword

theorem afterFirstBy?_eq_some (h : afterFirstBy? same w t = some r) :
    ∃ gap v, List.Forall₂ (fun k c => same k c = true) w v ∧ t = gap ++ (v ++ r) := by
  induction t with
  | nil =>
    obtain ⟨v, hv, ht⟩ := dropPrefixBy?_eq_some_iff.1 h
    exact ⟨[], v, hv, ht⟩
  | cons c t ih =>
    unfold afterFirstBy? at h
    split at h
    · rename_i hdrop
      obtain rfl := Option.some.inj h
      obtain ⟨v, hv, ht⟩ := dropPrefixBy?_eq_some_iff.1 hdrop
      exact ⟨[], v, hv, ht⟩
    · obtain ⟨gap, v, hv, rfl⟩ := ih h
      exact ⟨c :: gap, v, hv, rfl⟩

theorem exists_afterFirstBy? (gap : List Char) {v : List Char}
    (hv : List.Forall₂ (fun k c => same k c = true) w v) :
    ∃ r, afterFirstBy? same w (gap ++ (v ++ t)) = some r ∧ t <:+ r := by
  have hdrop : dropPrefixBy? same w (v ++ t) = some t := dropPrefixBy?_eq_some_iff.2 ⟨v, hv, rfl⟩
  induction gap with
  | nil =>
    refine ⟨t, ?_, List.suffix_rfl⟩
    rw [List.nil_append]
    cases hvt : v ++ t with
    | nil => rwa [hvt] at hdrop
    | cons c rest =>
      unfold afterFirstBy?
      rw [← hvt, hdrop]
  | cons c gap ih =>
    rw [List.cons_append]
    unfold afterFirstBy?
    split
    · rename_i r hr
      -- An earlier place leaves more of the text behind it.
      obtain ⟨v', hv', ht⟩ := dropPrefixBy?_eq_some_iff.1 hr
      refine ⟨r, rfl, ?_⟩
      have hsuffix : r <:+ c :: (gap ++ (v ++ t)) := ⟨v', ht.symm⟩
      have hlength : v'.length = v.length := hv'.length_eq.symm.trans hv.length_eq
      refine List.suffix_of_suffix_length_le ⟨c :: (gap ++ v), by simp⟩ hsuffix ?_
      have := congrArg List.length ht
      simp only [List.length_cons, List.length_append] at this
      omega
    · exact ih

theorem inOrder_iff : inOrder same ws t = true ↔ Follow same ws t := by
  induction ws generalizing t with
  | nil => exact iff_of_true rfl (.done t)
  | cons w ws ih =>
    unfold inOrder
    constructor
    · intro h
      split at h
      · rename_i r hr
        obtain ⟨gap, v, hv, rfl⟩ := afterFirstBy?_eq_some hr
        exact .word gap hv (ih.1 h)
      · cases h
    · rintro (_ | ⟨gap, hv, hrest⟩)
      obtain ⟨r, hr, hsuffix⟩ := exists_afterFirstBy? gap hv
      rw [hr]
      exact ih.2 (hrest.of_infix hsuffix.isInfix)

end Follow

inductive Phrase.StandsIn (p : Phrase) (s : String) : Prop
  | intro {stretch : List Char} : stretch <:+: s.toList →
    (p.acrossLines = false → '\n' ∉ stretch) →
    Follow p.same (p.words.map String.toList) stretch → p.StandsIn s

theorem Phrase.occursIn_iff (p : Phrase) (s : String) : p.occursIn s = true ↔ p.StandsIn s := by
  rw [occursIn, List.any_eq_true]
  constructor
  · rintro ⟨stretch, hmem, h⟩
    rw [inOrder_iff] at h
    unfold stretches at hmem
    split at hmem
    · rename_i hacross
      obtain rfl := List.mem_singleton.1 hmem
      exact .intro List.infix_rfl (fun hline => by rw [hacross] at hline; cases hline) h
    · exact .intro (isInfix_of_mem_pieces hmem) (fun _ => not_mem_of_mem_pieces hmem) h
  · rintro ⟨hstretch, hline, h⟩
    unfold stretches
    split
    · exact ⟨_, List.mem_singleton_self _, inOrder_iff.2 (h.of_infix hstretch)⟩
    · rename_i hacross
      obtain ⟨piece, hmem, hpiece⟩ :=
        exists_mem_pieces_of_infix (hline (Bool.eq_false_iff.2 hacross)) hstretch
      exact ⟨piece, hmem, inOrder_iff.2 (h.of_infix hpiece)⟩

end PolySql.Text
