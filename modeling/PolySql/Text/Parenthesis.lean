import PolySql.Text.Blank
import PolySql.Text.Cut

namespace PolySql.Text

def depthAfter (depth : Nat) : List Char → Option Nat
  | [] => some depth
  | '(' :: r => depthAfter (depth + 1) r
  | ')' :: r =>
    match depth with
    | 0 => none
    | d + 1 => depthAfter d r
  | _ :: r => depthAfter depth r

def isBalanced (t : List Char) : Bool :=
  depthAfter 0 t == some 0

def enclosed? (t : List Char) : Option (List Char) :=
  (between? ['('] [')'] t).filter isBalanced

theorem dropPrefixBy?_length {same : Char → Char → Bool} :
    ∀ {p t r : List Char}, dropPrefixBy? same p t = some r → t.length = p.length + r.length := by
  intro p
  induction p with
  | nil => intro t r h; simp [dropPrefixBy?] at h; simp [h]
  | cons c cs ih =>
    intro t r h
    cases t with
    | nil => simp [dropPrefixBy?] at h
    | cons x xs =>
      simp only [dropPrefixBy?] at h
      split at h
      · have := ih h
        simp only [List.length_cons]
        omega
      · simp at h

theorem dropPrefix?_length {p t r : List Char} (h : dropPrefix? p t = some r) :
    t.length = p.length + r.length :=
  dropPrefixBy?_length h

theorem dropSuffix?_length {p t r : List Char} (h : dropSuffix? p t = some r) :
    t.length = p.length + r.length := by
  simp only [dropSuffix?, Option.map_eq_some_iff] at h
  obtain ⟨u, hu, rfl⟩ := h
  have := dropPrefix?_length hu
  simpa using this

theorem enclosed?_length {t r : List Char} (h : enclosed? t = some r) :
    t.length = r.length + 2 := by
  simp only [enclosed?, Option.filter_eq_some_iff, between?, Option.bind_eq_some_iff] at h
  obtain ⟨⟨u, hu, hr⟩, -⟩ := h
  have h1 := dropPrefix?_length hu
  have h2 := dropSuffix?_length hr
  simp only [List.length_cons, List.length_nil] at h1 h2
  omega

theorem length_dropWhile_le (p : Char → Bool) (t : List Char) :
    (t.dropWhile p).length ≤ t.length :=
  (List.dropWhile_sublist p).length_le

theorem length_trim_le (t : List Char) : (trim t).length ≤ t.length := by
  have h1 := length_dropWhile_le isBlank (trimStart t).reverse
  have h2 := length_dropWhile_le isBlank t
  simp only [trim, trimEnd, List.length_reverse, trimStart] at *
  omega

def unwrap (t : List Char) : List Char :=
  match _h : enclosed? t with
  | none => t
  | some r => unwrap (trim r)
termination_by t.length
decreasing_by
  have h1 := enclosed?_length (by assumption)
  have h2 := length_trim_le r
  omega

end PolySql.Text
