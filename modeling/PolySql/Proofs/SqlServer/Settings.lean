import PolySql.Proofs.Number.Integer
import PolySql.Proofs.Text.Cut
import PolySql.Proofs.Text.Pieces
import PolySql.SqlServer.Settings

namespace PolySql.SqlServer

open Number Text

def readProperty? (t : List Char) : Option (String × String) :=
  (cut? '=' t).map fun p => (String.ofList p.1, String.ofList p.2)

def readPieces? : List (List Char) → Option (List (String × String))
  | [] => none
  | [t] => if t = [] then some [] else none
  | t :: t' :: ts => (readProperty? t).bind fun p => (readPieces? (t' :: ts)).map (p :: ·)

def readProperties? (t : List Char) : Option (List (String × String)) :=
  readPieces? (pieces ';' t)

def urlScheme : String := "jdbc:sqlserver://"

def readBehind? (host url : String) : Option (List (String × String)) :=
  (dropPrefix? (urlScheme ++ host ++ ";").toList url.toList).bind readProperties?

def readUrl? (url : String) : Option (String × List (String × String)) :=
  (dropPrefix? urlScheme.toList url.toList).bind fun t => (cut? ';' t).bind fun p =>
    (readProperties? p.2).map fun ps => (String.ofList p.1, ps)

def propertiesText (ps : List (String × String)) : String :=
  joined "" (ps.map fun p => p.1 ++ "=" ++ p.2 ++ ";")

structure IsPlainProperty (p : String × String) : Prop where
  name_equals : '=' ∉ p.1.toList
  name_separator : ';' ∉ p.1.toList
  value : ';' ∉ p.2.toList

section Texts
variable {p : String × String} {ps : List (String × String)}

theorem joined_empty_cons (s : String) (ss : List String) : joined "" (s :: ss) = s ++ joined "" ss := by
  cases ss with
  | nil => simp [joined]
  | cons t ts => rw [joined_cons_cons, String.append_empty]

theorem readProperty?_text (h : '=' ∉ p.1.toList) :
    readProperty? (p.1 ++ "=" ++ p.2).toList = some p := by
  have htext : (p.1 ++ "=" ++ p.2).toList = p.1.toList ++ '=' :: p.2.toList := by
    simp [String.toList_append]
  rw [readProperty?, htext, cut?_append h]
  simp

theorem readPieces?_cons {t : List Char} {ts : List (List Char)} (h : ts ≠ []) :
    readPieces? (t :: ts) = (readProperty? t).bind fun p => (readPieces? ts).map (p :: ·) := by
  cases ts with
  | nil => exact absurd rfl h
  | cons t' ts => rfl

theorem readProperties?_text (h : ∀ p ∈ ps, IsPlainProperty p) :
    readProperties? (propertiesText ps).toList = some ps := by
  induction ps with
  | nil => rfl
  | cons p ps ih =>
    obtain ⟨hp, hps⟩ := List.forall_mem_cons.1 h
    have htext : (propertiesText (p :: ps)).toList =
        (p.1 ++ "=" ++ p.2).toList ++ ';' :: (propertiesText ps).toList := by
      rw [propertiesText, List.map_cons, joined_empty_cons]
      simp [String.toList_append, propertiesText]
    have hpiece : ';' ∉ (p.1 ++ "=" ++ p.2).toList := by
      simp [String.toList_append, hp.name_separator, hp.value]
    have hrest : readPieces? (pieces ';' (propertiesText ps).toList) = some ps := ih hps
    rw [readProperties?, htext, pieces_append, pieces_of_not_mem hpiece, List.singleton_append,
      readPieces?_cons (pieces_ne_nil _ _), readProperty?_text hp.name_equals, hrest]
    rfl

theorem exists_mem_of_readPieces? {ts : List (List Char)} (h : readPieces? ts = some ps) (hp : p ∈ ps) :
    ∃ t ∈ ts, readProperty? t = some p := by
  fun_induction readPieces? ts generalizing ps with
  | case1 => cases h
  | case2 =>
    obtain rfl := Option.some.inj h
    cases hp
  | case3 => cases h
  | case4 t t' ts ih =>
    obtain ⟨q, hq, h⟩ := Option.bind_eq_some_iff.1 h
    obtain ⟨qs, hqs, rfl⟩ := Option.map_eq_some_iff.1 h
    rcases List.mem_cons.1 hp with rfl | hp
    · exact ⟨t, List.mem_cons_self .., hq⟩
    · obtain ⟨u, hu, heq⟩ := ih hqs hp
      exact ⟨u, List.mem_cons_of_mem _ hu, heq⟩

theorem not_mem_of_readProperties? {t : List Char} (h : readProperties? t = some ps) (hp : p ∈ ps) :
    ';' ∉ p.2.toList := by
  obtain ⟨u, hu, heq⟩ := exists_mem_of_readPieces? h hp
  obtain ⟨⟨name, value⟩, hcut, rfl⟩ := Option.map_eq_some_iff.1 heq
  obtain ⟨-, rfl⟩ := cut?_eq_some_iff.1 hcut
  intro hmem
  rw [String.toList_ofList] at hmem
  exact not_mem_of_mem_pieces hu (List.mem_append_right _ (List.mem_cons_of_mem _ hmem))

end Texts

section Options
variable {os : List (String × Option String)}

def given (os : List (String × Option String)) : List (String × String) :=
  os.filterMap fun o => o.2.map fun v => (o.1, v)

theorem given_cons (name : String) (value : Option String) (os : List (String × Option String)) :
    given ((name, value) :: os) = (value.toList.map fun v => (name, v)) ++ given os := by
  cases value <;> rfl

theorem map_fst_given_sublist (os : List (String × Option String)) :
    ((given os).map Prod.fst).Sublist (os.map Prod.fst) := by
  induction os with
  | nil => exact .refl _
  | cons o os ih =>
    obtain ⟨name, _ | v⟩ := o
    · exact ih.cons _
    · exact ih.cons_cons _

theorem lookup_given (hnodup : (os.map Prod.fst).Nodup) :
    ∀ o ∈ os, (given os).lookup o.1 = o.2 := by
  induction os with
  | nil => exact fun o ho => nomatch ho
  | cons o os ih =>
    obtain ⟨name, value⟩ := o
    obtain ⟨hfirst, hrest⟩ := List.nodup_cons.1 hnodup
    have hnone : (given os).lookup name = none := by
      refine List.lookup_eq_none_iff.2 fun p hp => bne_iff_ne.2 ?_
      rintro rfl
      exact hfirst ((map_fst_given_sublist os).subset (List.mem_map_of_mem hp))
    refine List.forall_mem_cons.2 ⟨?_, fun o ho => ?_⟩
    · cases value with
      | none => exact hnone
      | some v => exact List.lookup_cons_self
    · have hne : o.1 ≠ name := by
        rintro rfl
        exact hfirst (List.mem_map.2 ⟨o, ho, rfl⟩)
      cases value with
      | none => exact ih hrest o ho
      | some v =>
        rw [given_cons]
        simp [List.lookup_cons, beq_eq_false_iff_ne.2 hne, ih hrest o ho]

end Options

namespace Settings

def options (s : Settings) : List (String × Option String) :=
  [("databaseName", s.database), ("instanceName", s.namedInstance),
    ("sendTimeAsDatetime", some (boolText s.sendTimeAsDatetime)),
    ("loginTimeout", s.loginTimeout.map fun n => natText n.toNat),
    ("lockTimeout", some (natText s.lockTimeout.toNat)), ("encrypt", s.encrypt.map boolText),
    ("trustServerCertificate", s.trustServerCertificate.map boolText),
    ("applicationName", s.applicationName), ("integratedSecurity", s.integratedSecurity.map boolText)]

structure Tells (s : Settings) (ps : List (String × String)) : Prop where
  names : (ps.map Prod.fst).Sublist (s.options.map Prod.fst)
  lookup : ∀ o ∈ s.options, ps.lookup o.1 = o.2

def freeTexts (s : Settings) : List String :=
  s.database.toList ++ s.namedInstance.toList ++ s.applicationName.toList

variable {s : Settings}

theorem properties_eq (s : Settings) : s.properties = given s.options := by
  simp only [options, given_cons]
  simp [properties, given]

theorem tells_properties (s : Settings) : s.Tells s.properties := by
  have hnodup : (s.options.map Prod.fst).Nodup := by
    simp [options]
  rw [properties_eq]
  exact ⟨map_fst_given_sublist s.options, lookup_given hnodup⟩

theorem isPlainProperty_of_mem (h : ∀ v ∈ s.freeTexts, ';' ∉ v.toList) :
    ∀ p ∈ s.properties, IsPlainProperty p := by
  have hbool (b : Bool) : ';' ∉ (boolText b).toList := by
    cases b <;> decide
  have hflag (b : Option Bool) : ∀ v, b.map boolText = some v → ';' ∉ v.toList := by
    intro v hv
    obtain ⟨b, -, rfl⟩ := Option.map_eq_some_iff.1 hv
    exact hbool b
  have hnumber (n : Nat) : ';' ∉ (natText n).toList := not_mem_natText rfl n
  -- numbers and switches never hold a separator, so that only the free texts have to be asked
  have hvalues : ∀ o ∈ s.options, ∀ v, o.2 = some v → ';' ∉ v.toList := by
    simp only [freeTexts, List.mem_append, Option.mem_toList, or_imp, forall_and] at h
    obtain ⟨⟨hdatabase, hinstance⟩, happlication⟩ := h
    simp only [options, List.forall_mem_cons]
    refine ⟨hdatabase, hinstance, ?_, ?_, ?_, hflag _, hflag _, happlication, hflag _, by simp⟩
    all_goals simp [hbool, hnumber]
  have hnames : ∀ o ∈ s.options, '=' ∉ o.1.toList ∧ ';' ∉ o.1.toList := by
    simp [options]
  intro p hp
  rw [properties_eq, given, List.mem_filterMap] at hp
  obtain ⟨o, ho, hmap⟩ := hp
  obtain ⟨v, hv, rfl⟩ := Option.map_eq_some_iff.1 hmap
  exact ⟨(hnames o ho).1, (hnames o ho).2, hvalues o ho v hv⟩

theorem connectionUrl_eq (hurl : s.url = none) :
    s.connectionUrl = urlScheme ++ s.hostText ++ ";" ++ propertiesText s.properties := by
  rw [connectionUrl, hurl]
  rfl

theorem readBehind?_connectionUrl (hurl : s.url = none) :
    readBehind? s.hostText s.connectionUrl = readProperties? (propertiesText s.properties).toList := by
  have hdrop : dropPrefix? (urlScheme ++ s.hostText ++ ";").toList s.connectionUrl.toList =
      some (propertiesText s.properties).toList := by
    rw [dropPrefix?_eq_some_iff, connectionUrl_eq hurl, String.toList_append]
  rw [readBehind?, hdrop, Option.bind_some]

theorem mem_hostText : ';' ∈ s.hostText.toList ↔ ';' ∈ s.host.toList := by
  have hnumber (n : Nat) : ';' ∉ (natText n).toList := not_mem_natText rfl n
  unfold hostText
  cases s.port with
  | none => rfl
  | some port => simp [String.toList_append, hnumber]

theorem readUrl?_connectionUrl (hurl : s.url = none) (hhost : ';' ∉ s.host.toList) :
    readUrl? s.connectionUrl =
      (readProperties? (propertiesText s.properties).toList).map fun ps => (s.hostText, ps) := by
  have hdrop : dropPrefix? urlScheme.toList s.connectionUrl.toList =
      some (s.hostText.toList ++ ';' :: (propertiesText s.properties).toList) := by
    rw [dropPrefix?_eq_some_iff, connectionUrl_eq hurl]
    simp [String.toList_append]
  rw [readUrl?, hdrop, Option.bind_some, cut?_append (mem_hostText.not.2 hhost), Option.bind_some,
    String.ofList_toList]

theorem not_mem_host_of_readUrl? {url host : String} {ps : List (String × String)}
    (h : readUrl? url = some (host, ps)) : ';' ∉ host.toList := by
  obtain ⟨t, -, h⟩ := Option.bind_eq_some_iff.1 h
  obtain ⟨⟨a, b⟩, hcut, h⟩ := Option.bind_eq_some_iff.1 h
  obtain ⟨_, -, heq⟩ := Option.map_eq_some_iff.1 h
  obtain ⟨rfl, -⟩ := Prod.mk.inj heq
  rw [String.toList_ofList]
  exact (cut?_eq_some_iff.1 hcut).1

theorem Tells.not_mem {t : List Char} {ps : List (String × String)} (h : s.Tells ps)
    (hps : readProperties? t = some ps) : ∀ v ∈ s.freeTexts, ';' ∉ v.toList := by
  intro v hv
  have hoption : ∃ o ∈ s.options, o.2 = some v := by
    simp only [freeTexts, List.mem_append, Option.mem_toList, or_assoc] at hv
    rcases hv with hv | hv | hv
    · exact ⟨("databaseName", s.database), by simp [options], hv⟩
    · exact ⟨("instanceName", s.namedInstance), by simp [options], hv⟩
    · exact ⟨("applicationName", s.applicationName), by simp [options], hv⟩
  obtain ⟨o, ho, hvalue⟩ := hoption
  have hlookup : ps.lookup o.1 = some v := (h.lookup o ho).trans hvalue
  obtain ⟨l, r, heq, -⟩ := List.lookup_eq_some_iff.1 hlookup
  have hmem : (o.1, v) ∈ ps := heq ▸ List.mem_append_right l (List.mem_cons_self ..)
  exact not_mem_of_readProperties? hps hmem

theorem readsBack_iff (hurl : s.url = none) :
    ((∃ ps, readBehind? s.hostText s.connectionUrl = some ps ∧ s.Tells ps) ↔
      ∀ v ∈ s.freeTexts, ';' ∉ v.toList) ∧
    ((∃ ps, readUrl? s.connectionUrl = some (s.hostText, ps) ∧ s.Tells ps) ↔
      ';' ∉ s.host.toList ∧ ∀ v ∈ s.freeTexts, ';' ∉ v.toList) := by
  have hread (h : ∀ v ∈ s.freeTexts, ';' ∉ v.toList) :
      readProperties? (propertiesText s.properties).toList = some s.properties :=
    readProperties?_text (isPlainProperty_of_mem h)
  rw [readBehind?_connectionUrl hurl]
  refine ⟨⟨?_, ?_⟩, ⟨?_, ?_⟩⟩
  · rintro ⟨ps, hps, htells⟩
    exact htells.not_mem hps
  · intro h
    exact ⟨s.properties, hread h, tells_properties s⟩
  · rintro ⟨ps, hps, htells⟩
    have hhost : ';' ∉ s.host.toList := mem_hostText.not.1 (not_mem_host_of_readUrl? hps)
    rw [readUrl?_connectionUrl hurl hhost] at hps
    obtain ⟨ps', hps', heq⟩ := Option.map_eq_some_iff.1 hps
    obtain ⟨-, rfl⟩ := Prod.mk.inj heq
    exact ⟨hhost, htells.not_mem hps'⟩
  · rintro ⟨hhost, h⟩
    refine ⟨s.properties, ?_, tells_properties s⟩
    rw [readUrl?_connectionUrl hurl hhost, hread h]
    rfl

def equalsInInstance : Settings :=
  { standard with namedInstance := some "a=b", encrypt := some true }

theorem readsBack_iff_equalsInInstance :
    equalsInInstance.url = none ∧
    equalsInInstance.connectionUrl =
      "jdbc:sqlserver://localhost;instanceName=a=b;sendTimeAsDatetime=false;lockTimeout=5000;encrypt=true;" ∧
    ∃ ps, readUrl? equalsInInstance.connectionUrl = some (equalsInInstance.hostText, ps) ∧
      equalsInInstance.Tells ps := by
  have hurl : equalsInInstance.url = none := rfl
  exact ⟨hurl, by decide +kernel, (readsBack_iff hurl).2.2 (by decide +kernel)⟩

def certificateInDatabase : Settings :=
  { standard with database := some "shop;trustServerCertificate=true" }

theorem certificateInDatabase_is_not_told :
    certificateInDatabase.url = none ∧ certificateInDatabase.trustServerCertificate = none ∧
    readBehind? certificateInDatabase.hostText certificateInDatabase.connectionUrl =
      some [("databaseName", "shop"), ("trustServerCertificate", "true"), ("sendTimeAsDatetime", "false"),
        ("lockTimeout", "5000")] ∧
    ¬ ∃ ps, readBehind? certificateInDatabase.hostText certificateInDatabase.connectionUrl = some ps ∧
      certificateInDatabase.Tells ps := by
  have hread : readBehind? certificateInDatabase.hostText certificateInDatabase.connectionUrl =
      some [("databaseName", "shop"), ("trustServerCertificate", "true"), ("sendTimeAsDatetime", "false"),
        ("lockTimeout", "5000")] := by
    decide +kernel
  refine ⟨rfl, rfl, hread, ?_⟩
  rintro ⟨ps, hps, htells⟩
  obtain rfl := Option.some.inj (hread.symm.trans hps)
  have hdatabase := htells.lookup ("databaseName", some "shop;trustServerCertificate=true") (by decide)
  exact absurd hdatabase (by decide)

end Settings

end PolySql.SqlServer
