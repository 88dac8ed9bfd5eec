/-
A URL that is written is read back.

Reading takes the scheme off first, then the authority, and cuts what is left at the marks of
the fragment and of the query.  What it finds are parts that stand apart: no part holds a
mark that would end it.  Such parts, written with the marks between them, are found again,
provided that there is an authority to write; without one, the start of a path may be taken
for one.
-/
import VacancyLedger.Proofs.Address.Scheme
import VacancyLedger.Proofs.Outcome

namespace VacancyLedger.Address

variable {cs rest scheme url : List Char} {p q : Parts}

/-! ### What is read behind a scheme -/

/-- Whether the character ends an authority. -/
def endsAuthority (c : Char) : Bool :=
  c == '/' || c == '?' || c == '#'

/-- The authority, which stands behind two slashes, and what follows it. -/
def authorityAndRest (rest : List Char) : List Char × List Char :=
  match rest with
  | '/' :: '/' :: more => cutWhere endsAuthority more
  | _ => ([], rest)

/-- The parts that are read behind a scheme. -/
def partsBehind (scheme rest : List Char) : Parts :=
  let located := authorityAndRest rest
  let fragmented := Text.cutAt '#' located.2
  let queried := Text.cutAt '?' fragmented.1
  ⟨scheme, located.1, queried.1, queried.2.getD [], fragmented.2.getD []⟩

/-- The scheme of a text, or the one given, and what follows it. -/
def schemeAndRest (scheme url : List Char) : List Char × List Char :=
  (cutScheme (clean url)).getD (scheme, clean url)

theorem splitWith_eq (scheme url : List Char) :
    splitWith scheme url = do
      let p := partsBehind (schemeAndRest scheme url).1 (schemeAndRest scheme url).2
      checkBrackets p.authority
      checkMarks p.authority
      return p := rfl

/-- A text is a URL if the authority that is read in it may be one. -/
theorem splitWith_ok_iff :
    splitWith scheme url = .ok p ↔
      p = partsBehind (schemeAndRest scheme url).1 (schemeAndRest scheme url).2 ∧
        checkBrackets p.authority = .ok () ∧ checkMarks p.authority = .ok () := by
  rw [splitWith_eq]
  constructor
  · intro h
    obtain ⟨⟨⟩, hbrackets, h⟩ := bind_ok h
    obtain ⟨⟨⟩, hmarks, h⟩ := bind_ok h
    obtain rfl := Except.ok.inj h
    exact ⟨rfl, hbrackets, hmarks⟩
  · rintro ⟨hp, hbrackets, hmarks⟩
    simp only [← hp, hbrackets, hmarks]
    rfl

/-! ### Parts that stand apart -/

/-- Parts of which none holds a mark that would end it. -/
structure Parts.IsApart (p : Parts) : Prop where
  authority : ∀ c ∈ p.authority, endsAuthority c = false
  path : '?' ∉ p.path ∧ '#' ∉ p.path
  query : '#' ∉ p.query
  /-- Behind an authority the path is empty or starts at the root. -/
  rooted : p.authority ≠ [] → ∀ c ∈ p.path.head?, c = '/'

theorem endsAuthority_iff {c : Char} : endsAuthority c = true ↔ c = '/' ∨ c = '?' ∨ c = '#' := by
  simp [endsAuthority, or_assoc]

/-- What follows the authority is nothing, or it starts with a mark. -/
theorem authorityAndRest_cases (rest : List Char) :
    authorityAndRest rest = ([], rest) ∨
      ∃ authority more, rest = '/' :: '/' :: (authority ++ more) ∧
        authorityAndRest rest = (authority, more) ∧ (∀ c ∈ authority, endsAuthority c = false) ∧
        ∀ c ∈ more.head?, endsAuthority c = true := by
  unfold authorityAndRest
  split
  · next more =>
      refine .inr ⟨more.takeWhile (!endsAuthority ·), more.dropWhile (!endsAuthority ·), ?_, ?_,
        fun c hc => ?_, fun c hc => ?_⟩
      · rw [List.takeWhile_append_dropWhile]
      · exact List.span_eq_takeWhile_dropWhile ..
      · simpa using List.mem_takeWhile_imp hc
      · simpa using Text.head?_dropWhile _ _ c hc
  · exact .inl rfl

theorem prefix_path (scheme rest : List Char) :
    (partsBehind scheme rest).path <+: (authorityAndRest rest).2 :=
  (Text.prefix_cutAt_fst ..).trans (Text.prefix_cutAt_fst ..)

theorem marks_not_mem_path (scheme rest : List Char) :
    '?' ∉ (partsBehind scheme rest).path ∧ '#' ∉ (partsBehind scheme rest).path :=
  ⟨Text.not_mem_cutAt_fst '?' _, fun hin =>
    Text.not_mem_cutAt_fst '#' _ ((Text.prefix_cutAt_fst '?' _).subset hin)⟩

/-- A path that begins where an authority has ended begins at the root. -/
theorem rooted_of_mark (scheme : List Char)
    (h : ∀ c ∈ (authorityAndRest rest).2.head?, endsAuthority c = true) :
    ∀ c ∈ (partsBehind scheme rest).path.head?, c = '/' := by
  intro c hc
  obtain ⟨hquery, hfragment⟩ := marks_not_mem_path scheme rest
  have hin := List.mem_of_mem_head? hc
  have hmark := h c (Text.mem_head?_mono (prefix_path scheme rest) hc)
  rcases endsAuthority_iff.mp hmark with rfl | rfl | rfl
  · rfl
  · exact absurd hin hquery
  · exact absurd hin hfragment

/-- Whatever is read behind a scheme stands apart. -/
theorem isApart_partsBehind (scheme rest : List Char) : (partsBehind scheme rest).IsApart where
  authority := by
    rcases authorityAndRest_cases rest with hnone | ⟨authority, more, -, hlocated, hmarks, -⟩
    · simp [partsBehind, hnone]
    · simpa [partsBehind, hlocated] using hmarks
  path := marks_not_mem_path scheme rest
  query := by
    intro hin
    cases hcut : (Text.cutAt '?' (Text.cutAt '#' (authorityAndRest rest).2).1).2 with
    | none => simp [partsBehind, hcut] at hin
    | some query =>
        simp only [partsBehind, hcut, Option.getD_some] at hin
        exact Text.not_mem_cutAt_fst '#' _ (Text.mem_of_cutAt_snd hcut hin)
  rooted := by
    intro hne
    rcases authorityAndRest_cases rest with hnone | ⟨authority, more, -, hlocated, -, hmore⟩
    · exact absurd (by simp [partsBehind, hnone]) hne
    · exact rooted_of_mark scheme (by simpa [hlocated] using hmore)

theorem isApart_of_split (h : splitWith scheme url = .ok p) : p.IsApart := by
  rw [(splitWith_ok_iff.mp h).1]
  exact isApart_partsBehind _ _

/-! ### Reading what was written -/

/-- A part with the mark before it, or nothing if there is no such part. -/
def marked (mark : Char) (part : List Char) : List Char :=
  if part.isEmpty then [] else mark :: part

/-- What is written behind the path. -/
def Parts.tail (p : Parts) : List Char :=
  marked '?' p.query ++ marked '#' p.fragment

theorem cutAt_marked {mark : Char} (h : mark ∉ cs) (part : List Char) :
    (Text.cutAt mark (cs ++ marked mark part)).1 = cs ∧
      (Text.cutAt mark (cs ++ marked mark part)).2.getD [] = part := by
  cases part with
  | nil => simp [marked, Text.cutAt_of_not_mem h]
  | cons c part => simp [marked, Text.cutAt_append h]

theorem head?_tail {c : Char} (h : c ∈ p.tail.head?) : c = '?' ∨ c = '#' := by
  unfold Parts.tail marked at h
  by_cases hquery : p.query.isEmpty = true
  · by_cases hfragment : p.fragment.isEmpty = true
    · simp [hquery, hfragment] at h
    · exact .inr (by simpa [hquery, hfragment] using h.symm)
  · exact .inl (by simpa [hquery] using h.symm)

theorem authorityAndRest_append {authority more : List Char}
    (hauthority : ∀ c ∈ authority, endsAuthority c = false)
    (hmore : ∀ c ∈ more.head?, endsAuthority c = true) :
    authorityAndRest ('/' :: '/' :: (authority ++ more)) = (authority, more) :=
  Text.span_run (by simpa using hauthority) (by simpa using hmore)

/-- Parts that stand apart are found again behind two slashes. -/
theorem partsBehind_slashes (hp : p.IsApart) (hrooted : ∀ c ∈ p.path.head?, c = '/') :
    partsBehind p.scheme ('/' :: '/' :: (p.authority ++ (p.path ++ p.tail))) = p := by
  have hmore : ∀ c ∈ (p.path ++ p.tail).head?, endsAuthority c = true := by
    intro c hc
    rw [endsAuthority_iff]
    cases hpath : p.path with
    | nil =>
        rw [hpath] at hc
        exact .inr (head?_tail hc)
    | cons d path =>
        rw [hpath] at hc hrooted
        obtain rfl : d = c := Option.some.inj hc
        exact .inl (hrooted d rfl)
  have hfragment : '#' ∉ p.path ++ marked '?' p.query := by
    rw [List.mem_append, not_or]
    refine ⟨hp.path.2, ?_⟩
    unfold marked
    split
    · exact List.not_mem_nil
    · simpa using hp.query
  have hread := cutAt_marked hfragment p.fragment
  rw [List.append_assoc] at hread
  have hqueried := cutAt_marked hp.path.1 p.query
  unfold partsBehind
  simp only [authorityAndRest_append hp.authority hmore]
  simp only [Parts.tail, hread, hqueried]

/-! ### What is written -/

/-- What is written between the scheme and the query. -/
def Parts.located (p : Parts) : List Char :=
  if !p.authority.isEmpty ||
      (!p.scheme.isEmpty && schemesWithAuthority.contains (String.ofList p.scheme) &&
        !(p.path.take 2 = ['/', '/'] : Bool))
  then
    '/' :: '/' :: (p.authority ++
      if p.path.isEmpty || p.path.head? = some '/' then p.path else '/' :: p.path)
  else p.path

theorem unsplit_eq (p : Parts) :
    unsplit p =
      (if p.scheme.isEmpty then p.located else p.scheme ++ ':' :: p.located) ++ p.tail := by
  unfold unsplit Parts.located Parts.tail marked
  cases p.query <;> cases p.fragment <;> simp

theorem located_of_authority (hp : p.IsApart) (hne : p.authority ≠ []) :
    p.located = '/' :: '/' :: (p.authority ++ p.path) := by
  have hrooted := hp.rooted hne
  unfold Parts.located
  rw [if_pos (by simp [hne]), if_pos ?_]
  cases hpath : p.path with
  | nil => simp
  | cons c path => simp [hrooted c (by rw [hpath]; rfl)]

/-! ### The scheme of what is read -/

/-- A URL has a scheme in lower case, or there is none in its text. -/
theorem scheme_of_split (h : split url = .ok p) :
    (p.scheme = [] ∧ cutScheme (clean url) = none) ∨ IsLowScheme p.scheme := by
  rw [(splitWith_ok_iff.mp h).1]
  cases hcut : cutScheme (clean url) with
  | none => exact .inl ⟨by simp [partsBehind, schemeAndRest, hcut], rfl⟩
  | some found =>
      obtain ⟨scheme, rest⟩ := found
      obtain ⟨name, hname, -, rfl⟩ := cutScheme_eq_some_iff.mp hcut
      refine .inr ?_
      simpa [partsBehind, schemeAndRest, hcut] using hname.isLowScheme

/-- In a URL without a scheme no scheme is found at its path. -/
theorem path_of_split (h : split url = .ok p) (hscheme : p.scheme = []) :
    cutScheme p.path = none ∧ ∀ c ∈ p.path.head?, 32 < c.toNat := by
  rcases scheme_of_split h with ⟨-, hnone⟩ | hlow
  · have hp : p = partsBehind [] (clean url) := by
      simpa [schemeAndRest, hnone] using (splitWith_ok_iff.mp h).1
    have hstart := prefix_path [] (clean url)
    rw [hp]
    rcases authorityAndRest_cases (clean url) with hfree | ⟨authority, more, -, hlocated, -, hmore⟩
    · rw [hfree] at hstart
      exact ⟨cutScheme_start hstart hnone, fun c hc =>
        head?_clean c (Text.mem_head?_mono hstart hc)⟩
    · have hrooted : ∀ c ∈ (partsBehind [] (clean url)).path.head?, c = '/' :=
        rooted_of_mark [] (by simpa [hlocated] using hmore)
      exact ⟨cutScheme_of_head fun c hc => by rw [hrooted c hc]; rfl, fun c hc => by
        rw [hrooted c hc]
        decide⟩
  · exact absurd hscheme hlow.1.ne_nil

/-- What is written without a scheme is read without one. -/
theorem scheme_of_split_unsplit (hscheme : p.scheme = []) (hne : p.path ≠ [])
    (hpath : cutScheme p.path = none ∧ ∀ c ∈ p.path.head?, 32 < c.toNat)
    (h : split (unsplit p) = .ok q) (hblank : ∀ c ∈ unsplit p, Text.isBlank c = false) :
    q.scheme = [] := by
  have hnone : cutScheme p.located = none ∧ ∀ c ∈ p.located.head?, 32 < c.toNat := by
    unfold Parts.located
    split
    · exact ⟨cutScheme_of_head (by simp), by simp⟩
    · exact hpath
  have hlocated : p.located ≠ [] := by
    unfold Parts.located
    split
    · exact List.cons_ne_nil _ _
    · exact hne
  have hunsplit : unsplit p = p.located ++ p.tail := by
    rw [unsplit_eq, hscheme]
    rfl
  have hcut : cutScheme (unsplit p) = none := by
    rw [hunsplit]
    refine cutScheme_append hnone.1 fun c hc => ?_
    rcases head?_tail hc with rfl | rfl
    · decide
    · decide
  have hclean : clean (unsplit p) = unsplit p := by
    refine clean_of_no_blank (fun c hc => ?_) hblank
    obtain ⟨d, ds, hd⟩ := List.exists_cons_of_ne_nil hlocated
    rw [hunsplit, hd] at hc
    exact hnone.2 c (by rw [hd]; exact hc)
  rw [(splitWith_ok_iff.mp h).1]
  simp [partsBehind, schemeAndRest, hclean, hcut]

/-! ### The parts of what is read -/

/-- A scheme in lower case is read as it is written. -/
theorem schemeAndRest_written (hlow : IsLowScheme scheme)
    (hblank : ∀ c ∈ scheme ++ ':' :: rest, Text.isBlank c = false) :
    schemeAndRest [] (scheme ++ ':' :: rest) = (scheme, rest) := by
  have hclean : clean (scheme ++ ':' :: rest) = scheme ++ ':' :: rest := by
    refine clean_of_no_blank (fun c hc => ?_) hblank
    obtain ⟨first, name, hname⟩ := List.exists_cons_of_ne_nil hlow.1.ne_nil
    rw [hname] at hc
    obtain rfl : first = c := Option.some.inj hc
    exact (toNat_of_isSchemeChar (hlow.1.2 first (by rw [hname]; exact List.mem_cons_self))).1
  rw [schemeAndRest, hclean, cutScheme_written hlow, Option.getD_some]

/-- What is written is read behind its scheme. -/
theorem eq_partsBehind_of_split (hlow : IsLowScheme p.scheme)
    (hblank : ∀ c ∈ unsplit p, Text.isBlank c = false) (h : split (unsplit p) = .ok q) :
    q = partsBehind p.scheme (p.located ++ p.tail) := by
  have hunsplit : unsplit p = p.scheme ++ ':' :: (p.located ++ p.tail) := by
    rw [unsplit_eq, if_neg (by simpa using hlow.1.ne_nil)]
    simp
  rw [hunsplit] at hblank h
  rw [(splitWith_ok_iff.mp h).1, schemeAndRest_written hlow hblank]

/-- **Parts with an authority that stand apart are read back from what is written of them.** -/
theorem eq_of_split_unsplit (hp : p.IsApart) (hlow : IsLowScheme p.scheme) (hne : p.authority ≠ [])
    (hblank : ∀ c ∈ unsplit p, Text.isBlank c = false) (h : split (unsplit p) = .ok q) : q = p := by
  rw [eq_partsBehind_of_split hlow hblank h, located_of_authority hp hne]
  simpa using partsBehind_slashes hp (hp.rooted hne)

/-- The parts with the start of the path, behind its two slashes, in place of the authority. -/
def Parts.promoted (p : Parts) : Parts :=
  let located := cutWhere endsAuthority (p.path.drop 2)
  { p with authority := located.1, path := located.2 }

theorem cutWhere_eq (f : Char → Bool) (cs : List Char) :
    cutWhere f cs = (cs.takeWhile (!f ·), cs.dropWhile (!f ·)) :=
  List.span_eq_takeWhile_dropWhile ..

theorem promoted_isApart (hp : p.IsApart) :
    p.promoted.IsApart ∧ ∀ c ∈ p.promoted.path.head?, c = '/' := by
  have hsub : ∀ c ∈ p.promoted.path, c ∈ p.path := by
    intro c hc
    simp only [Parts.promoted, cutWhere_eq] at hc
    exact List.mem_of_mem_drop ((List.dropWhile_sublist _).subset hc)
  have hrooted : ∀ c ∈ p.promoted.path.head?, c = '/' := by
    intro c hc
    have hin := hsub c (List.mem_of_mem_head? hc)
    simp only [Parts.promoted, cutWhere_eq] at hc
    have hmark : endsAuthority c = true := by simpa using Text.head?_dropWhile _ _ c hc
    rcases endsAuthority_iff.mp hmark with rfl | rfl | rfl
    · rfl
    · exact absurd hin hp.path.1
    · exact absurd hin hp.path.2
  refine ⟨⟨fun c hc => ?_, ⟨fun hin => hp.path.1 (hsub _ hin), fun hin => hp.path.2 (hsub _ hin)⟩,
    hp.query, fun _ => hrooted⟩, hrooted⟩
  simp only [Parts.promoted, cutWhere_eq] at hc
  simpa using List.mem_takeWhile_imp hc

/-- Without an authority none is read, or one at the start of a path with two slashes. -/
theorem split_unsplit_of_no_authority (hp : p.IsApart) (hlow : IsLowScheme p.scheme)
    (hscheme : String.ofList p.scheme ∈ schemesWithAuthority)
    (hnone : p.authority = []) (hblank : ∀ c ∈ unsplit p, Text.isBlank c = false)
    (h : split (unsplit p) = .ok q) :
    q.authority = [] ∨ q = p.promoted ∧ unsplit q = unsplit p := by
  have hq := eq_partsBehind_of_split hlow hblank h
  have hne := hlow.1.ne_nil
  by_cases hdoubled : p.path.take 2 = ['/', '/']
  · obtain ⟨hapart, hrooted⟩ := promoted_isApart hp
    obtain ⟨more, hpath⟩ : ∃ more, p.path = '/' :: '/' :: more := ⟨p.path.drop 2, by
      conv_lhs => rw [← List.take_append_drop 2 p.path, hdoubled]
      rfl⟩
    have hlocated : p.located = '/' :: '/' :: (p.promoted.authority ++ p.promoted.path) := by
      simp [Parts.located, Parts.promoted, hnone, hpath, cutWhere_eq]
    have hread : q = p.promoted := by
      rw [hq, hlocated]
      simpa [Parts.promoted, Parts.tail] using partsBehind_slashes hapart hrooted
    by_cases hauthority : p.promoted.authority = []
    · exact .inl (by rw [hread, hauthority])
    · refine .inr ⟨hread, ?_⟩
      rw [hread, unsplit_eq, unsplit_eq, located_of_authority hapart hauthority, hlocated]
      rfl
  · -- The path is written behind two slashes, where a mark stands at once.
    left
    obtain ⟨path, hlocated, hpath⟩ : ∃ path, p.located = '/' :: '/' :: path ∧
        ∀ c ∈ (path ++ p.tail).head?, endsAuthority c = true := by
      unfold Parts.located
      rw [if_pos (by simp [hne, hscheme, hdoubled])]
      refine ⟨_, rfl, fun c hc => ?_⟩
      rw [hnone, List.nil_append] at hc
      cases hcase : p.path with
      | nil => exact endsAuthority_iff.mpr (.inr (head?_tail (by simpa [hcase] using hc)))
      | cons first more =>
          have hslash : c = '/' := by
            by_cases hfirst : first = '/'
            · simpa [hcase, hfirst, eq_comm] using hc
            · simpa [hcase, hfirst, eq_comm] using hc
          exact endsAuthority_iff.mpr (.inl hslash)
    have hread : authorityAndRest ('/' :: '/' :: ([] ++ (path ++ p.tail))) = ([], path ++ p.tail) :=
      authorityAndRest_append nofun hpath
    rw [hq, hlocated]
    simpa [partsBehind] using congrArg Prod.fst hread

end VacancyLedger.Address
