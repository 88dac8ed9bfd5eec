/-
Absolute addresses and the bases they are found at.

A base is there for relative references.  An absolute address of the web is left as it is where
the base has another scheme, or where there is none; where the schemes agree it is cut and written
again, with the parameters of the last segment of its path taken off and put back.  What is written
is read back as the same parts, so the base does not matter to the canonical form, with one
exception: if the last segment ends in a semicolon without parameters behind it, the semicolon is
not put back.
-/
import VacancyLedger.Listing.Normalize
import VacancyLedger.Proofs.Address.Canonical
import VacancyLedger.Proofs.Address.Origin

namespace VacancyLedger.Address

variable {url base : List Char} {p b : Parts} {port : Option Nat}

/-! ### Parameters taken off and put back -/

/-- Whether the last segment of the path ends in its only semicolon. -/
def Parts.endsBare (p : Parts) : Bool :=
  (Text.cutAt ';' (Text.cutAtLast '/' p.path).2).2 == some []

/-- The parts with the parameters of the path taken off and put back. -/
def Parts.rejoined (p : Parts) : Parts :=
  { p with
    path := withParameters (cutParameters p.scheme p.path).1 (cutParameters p.scheme p.path).2 }

/-- Whether the scheme is one of the web. -/
def IsWebScheme (scheme : List Char) : Prop := scheme = "http".toList ∨ scheme = "https".toList

theorem IsWebScheme.known {scheme : List Char} (h : IsWebScheme scheme) :
    IsLowScheme scheme ∧ String.ofList scheme ∈ schemesWithParameters ∧
      relativeSchemes.contains (String.ofList scheme) = true ∧
      schemesWithAuthority.contains (String.ofList scheme) = true := by
  rcases h with rfl | rfl
  · decide
  · decide

/-- A path is its last segment with what stands before it, and parameters are cut off that. -/
theorem exists_folders (path : List Char) :
    ∃ folders, path = folders ++ (Text.cutAtLast '/' path).2 ∧
      ∀ scheme, String.ofList scheme ∈ schemesWithParameters →
        cutParameters scheme path =
          (Text.cutAt ';' (Text.cutAtLast '/' path).2).2.elim (path, []) fun parameters =>
            (folders ++ (Text.cutAt ';' (Text.cutAtLast '/' path).2).1, parameters) := by
  rcases Text.cutAtLast_cases '/' path with ⟨-, hcut⟩ | ⟨folders, last, hpath, -, hcut⟩
  · refine ⟨[], by rw [hcut]; rfl, fun scheme hscheme => ?_⟩
    rcases hsplit : Text.cutAt ';' path with ⟨name, _ | parameters⟩
    · simp [cutParameters, hscheme, hcut, hsplit]
    · simp [cutParameters, hscheme, hcut, hsplit]
  · refine ⟨folders ++ ['/'], by rw [hcut, hpath]; simp, fun scheme hscheme => ?_⟩
    rcases hsplit : Text.cutAt ';' last with ⟨name, _ | parameters⟩
    · simp [cutParameters, hscheme, hcut, hsplit]
    · simp [cutParameters, hscheme, hcut, hsplit]

/-- Taking the parameters off and putting them back loses a bare semicolon and nothing else. -/
theorem path_eq_rejoined (h : IsWebScheme p.scheme) :
    p.path = if p.endsBare then p.rejoined.path ++ [';'] else p.rejoined.path := by
  obtain ⟨folders, hpath, hcut⟩ := exists_folders p.path
  simp only [Parts.rejoined, Parts.endsBare, hcut p.scheme h.known.2.1]
  rcases Text.cutAt_cases ';' (Text.cutAtLast '/' p.path).2 with
    ⟨-, hnone⟩ | ⟨name, parameters, hlast, -, hsome⟩
  · simp [hnone, withParameters]
  · rw [hlast] at hpath
    rw [hsome]
    cases parameters with
    | nil => simpa [withParameters] using hpath
    | cons c parameters => simpa [withParameters] using hpath

theorem rejoined_eq_self (h : IsWebScheme p.scheme) (hbare : p.endsBare = false) :
    p.rejoined = p := by
  have hpath := path_eq_rejoined h
  rw [hbare, if_neg Bool.false_ne_true] at hpath
  calc p.rejoined = { p with path := p.rejoined.path } := rfl
    _ = p := by rw [← hpath]

theorem path_rejoined_start (h : IsWebScheme p.scheme) : p.rejoined.path <+: p.path := by
  have hpath := path_eq_rejoined h
  split at hpath
  · exact ⟨[';'], hpath.symm⟩
  · exact ⟨[], by rw [List.append_nil, ← hpath]⟩

theorem rejoined_isApart (h : IsWebScheme p.scheme) (hp : p.IsApart) : p.rejoined.IsApart where
  authority := hp.authority
  path := ⟨fun hin => hp.path.1 ((path_rejoined_start h).subset hin),
    fun hin => hp.path.2 ((path_rejoined_start h).subset hin)⟩
  query := hp.query
  rooted hne c hc := hp.rooted hne c (Text.mem_head?_mono (path_rejoined_start h) hc)

theorem isFeed_of_mem_marked {mark c : Char} {part : List Char} (hmark : isFeed mark = false)
    (hpart : ∀ c ∈ part, isFeed c = false) (hc : c ∈ marked mark part) : isFeed c = false := by
  unfold marked at hc
  split at hc
  · cases hc
  · rcases List.mem_cons.mp hc with rfl | hc
    · exact hmark
    · exact hpart c hc

/-! ### Absolute addresses -/

/-- The parts are those of an absolute address of the web. -/
structure IsAbsolute (url : List Char) (p : Parts) : Prop where
  split_eq : split url = .ok p
  scheme : IsWebScheme p.scheme
  host : p.host ≠ []

namespace IsAbsolute

theorem authority_ne_nil (h : IsAbsolute url p) : p.authority ≠ [] := fun hnone =>
  h.host (host_of_no_authority hnone).1

theorem url_ne_nil (h : IsAbsolute url p) : url ≠ [] := by
  rintro rfl
  have hnothing : split [] = .ok ⟨[], [], [], [], []⟩ := rfl
  exact h.authority_ne_nil (by rw [← Except.ok.inj (hnothing.symm.trans h.split_eq)])

/-- An address with a scheme of its own is read the same, whatever scheme is given. -/
theorem splitWith_eq (h : IsAbsolute url p) (scheme : List Char) :
    splitWith scheme url = .ok p := by
  obtain ⟨hparts, hchecks⟩ := splitWith_ok_iff.mp h.split_eq
  refine splitWith_ok_iff.mpr ⟨?_, hchecks⟩
  rcases scheme_of_split h.split_eq with ⟨hnone, -⟩ | hlow
  · exact absurd hnone h.scheme.known.1.1.ne_nil
  · cases hcut : cutScheme (clean url) with
    | none =>
        rw [schemeAndRest, hcut] at hparts
        exact absurd (congrArg Parts.scheme hparts) hlow.1.ne_nil
    | some found =>
        rw [hparts, schemeAndRest, schemeAndRest, hcut]
        rfl

/-- What is written of the address with its parameters put back. -/
theorem unsplit_rejoined (h : IsAbsolute url p) :
    unsplit p.rejoined = p.rejoined.scheme ++ ':' :: '/' :: '/' ::
      (p.authority ++ (p.rejoined.path ++ p.tail)) := by
  have hlow : IsLowScheme p.rejoined.scheme := h.scheme.known.1
  have hapart := rejoined_isApart h.scheme (isApart_of_split h.split_eq)
  rw [unsplit_eq, located_of_authority hapart h.authority_ne_nil,
    if_neg (by simpa using hlow.1.ne_nil)]
  simp [Parts.rejoined, Parts.tail]

/-- Nothing is written that would be taken out again: it was taken out when the address was read. -/
theorem isFeed_of_mem_unsplit (h : IsAbsolute url p) :
    ∀ c ∈ unsplit p.rejoined, isFeed c = false := by
  intro c hc
  have hpiece : ∀ {c : Char}, (c ∈ p.authority ∨ c ∈ p.path ∨ c ∈ p.query ∨ c ∈ p.fragment) →
      isFeed c = false := fun hc => isFeed_of_mem_clean (mem_clean_of_mem_part h.split_eq hc)
  rw [h.unsplit_rejoined] at hc
  simp only [List.mem_append, List.mem_cons] at hc
  rcases hc with hc | rfl | rfl | rfl | hc | hc | hc
  · exact isFeed_of_mem_scheme h.scheme.known.1 hc
  · decide
  · decide
  · decide
  · exact hpiece (.inl hc)
  · exact hpiece (.inr (.inl ((path_rejoined_start h.scheme).subset hc)))
  · rcases List.mem_append.mp hc with hc | hc
    · exact isFeed_of_mem_marked (by decide) (fun c hc => hpiece (.inr (.inr (.inl hc)))) hc
    · exact isFeed_of_mem_marked (by decide) (fun c hc => hpiece (.inr (.inr (.inr hc)))) hc

theorem clean_unsplit_rejoined (h : IsAbsolute url p) :
    clean (unsplit p.rejoined) = unsplit p.rejoined := by
  have hlow : IsLowScheme p.rejoined.scheme := h.scheme.known.1
  obtain ⟨c, name, hname⟩ := List.exists_cons_of_ne_nil hlow.1.ne_nil
  obtain ⟨cs, hcons⟩ : ∃ cs, unsplit p.rejoined = c :: cs :=
    ⟨_, by rw [h.unsplit_rejoined, hname]; rfl⟩
  have habove := (toNat_of_isSchemeChar (hlow.1.2 c (by rw [hname]; exact List.mem_cons_self))).1
  rw [hcons, clean_of_head habove, ← hcons, List.filter_eq_self]
  intro d hd
  rw [h.isFeed_of_mem_unsplit d hd]
  rfl

/-- What is written of the address with its parameters put back is read as that. -/
theorem split_unsplit_rejoined (h : IsAbsolute url p) :
    split (unsplit p.rejoined) = .ok p.rejoined := by
  have hlow : IsLowScheme p.rejoined.scheme := h.scheme.known.1
  have hapart := rejoined_isApart h.scheme (isApart_of_split h.split_eq)
  have hrest : schemeAndRest [] (unsplit p.rejoined) = (p.rejoined.scheme,
      '/' :: '/' :: (p.authority ++ (p.rejoined.path ++ p.tail))) := by
    rw [schemeAndRest, h.clean_unsplit_rejoined, h.unsplit_rejoined, cutScheme_written hlow,
      Option.getD_some]
  refine splitWith_ok_iff.mpr ⟨?_, (splitWith_ok_iff.mp h.split_eq).2⟩
  rw [hrest]
  exact (partsBehind_slashes hapart (hapart.rooted h.authority_ne_nil)).symm

/-- Laid over a base of its own scheme the address is written again, over any other it is left. -/
theorem join_eq (h : IsAbsolute url p) (hb : split base = .ok b) (hbase : base ≠ []) :
    join base url = .ok (if b.scheme = p.scheme then unsplit p.rejoined else url) := by
  obtain ⟨-, -, hrelative, hlocated⟩ := h.scheme.known
  have hauthority : (!p.authority.isEmpty) = true := by simpa using h.authority_ne_nil
  unfold join
  rw [if_neg (by simpa using hbase), if_neg (by simpa using h.url_ne_nil), hb]
  show (splitWith b.scheme url >>= _) = _
  rw [h.splitWith_eq b.scheme]
  show (if p.scheme ≠ b.scheme ∨ _ then _ else _) = _
  by_cases hsame : b.scheme = p.scheme
  · have hown : ¬(p.scheme ≠ b.scheme ∨
        (!relativeSchemes.contains (String.ofList p.scheme)) = true) := by
      rw [hrelative, hsame]
      simp
    rw [if_pos hsame, if_neg hown, if_pos ⟨hlocated, hauthority⟩]
    rfl
  · rw [if_neg hsame, if_pos (.inl (Ne.symm hsame))]
    rfl

end IsAbsolute

/-! ### Canonical forms -/

/-- The canonical form of the parts; empty if they are not those of the address of a web page. -/
def Parts.form (p : Parts) : List Char :=
  match p.port with
  | .error _ => []
  | .ok port =>
    if isWebChars (unsplit (p.canonical port)) then unsplit (p.canonical port) else []

/-- The parts that an absolute address is read as at a base: those it has, put together once more
if the base has the scheme of the address. -/
def Parts.seenFrom (p b : Parts) : Parts :=
  if b.scheme = p.scheme then p.rejoined else p

/-- The base matters to an absolute address by its scheme alone. -/
theorem canonicalChars_of_absolute {raw : List Char} (h : IsAbsolute (Text.trim raw) p)
    (hb : split base = .ok b) : canonicalChars raw base = (p.seenFrom b).form := by
  have hresolve : resolve (Text.trim raw) base = do
      let port ← (p.seenFrom b).port
      return (p.seenFrom b, port) := by
    rw [resolve_eq]
    by_cases hbase : base = []
    · -- Without a base there is no scheme to share.
      subst hbase
      have hother : b.scheme ≠ p.scheme := by
        have hnothing : split [] = .ok ⟨[], [], [], [], []⟩ := rfl
        rw [← Except.ok.inj (hnothing.symm.trans hb)]
        exact h.scheme.known.1.1.ne_nil.symm
      rw [Parts.seenFrom, if_neg hother]
      show (split (Text.trim raw) >>= _) = _
      rw [h.split_eq]
      rfl
    · rw [if_neg (by simpa using hbase), h.join_eq hb hbase]
      show (split _ >>= _) = _
      rw [Parts.seenFrom]
      split
      · rw [h.split_unsplit_rejoined]
        rfl
      · rw [h.split_eq]
        rfl
  unfold canonicalChars
  simp only [List.isEmpty_iff, h.url_ne_nil, if_false]
  rw [hresolve, Parts.form]
  cases (p.seenFrom b).port <;> rfl

theorem form_of_ne_nil (h : p.form ≠ []) :
    ∃ port, p.port = .ok port ∧ p.form = unsplit (p.canonical port) := by
  unfold Parts.form at h ⊢
  split at h
  · exact absurd rfl h
  · rename_i port hport
    split at h
    · rename_i hweb
      exact ⟨port, hport, if_pos hweb⟩
    · exact absurd rfl h

namespace IsAbsolute

/-- What is written of an address with a host. -/
theorem unsplit_canonical (h : IsAbsolute url p) (hport : p.port = .ok port) (hpath : p.path ≠ []) :
    unsplit (p.canonical port) = p.scheme ++ ':' :: '/' :: '/' ::
      (essentialAuthority p.scheme p.host port ++ (p.path ++ (p.canonical port).tail)) := by
  have hauthority : (p.canonical port).authority ≠ [] := by
    rw [canonical_authority]
    exact fun hnil => bracketed_ne_nil h.host (List.append_eq_nil_iff.mp hnil).1
  have hlow : IsLowScheme (p.canonical port).scheme := h.scheme.known.1
  rw [unsplit_eq, if_neg (by simpa using hlow.1.ne_nil),
    located_of_authority (isApart_canonical h.split_eq hport) hauthority]
  simp [Parts.canonical, hpath]

theorem rejoined (h : IsAbsolute url p) : IsAbsolute (unsplit p.rejoined) p.rejoined :=
  ⟨h.split_unsplit_rejoined, h.scheme, h.host⟩

/-- An address is not the same without the semicolon. -/
theorem form_eq_nil_of_rejoined (h : IsAbsolute url p) (hbare : p.endsBare = true)
    (heq : p.rejoined.form = p.form) : p.form = [] := by
  have hpath := path_eq_rejoined h.scheme
  rw [if_pos hbare] at hpath
  have hne : p.rejoined.path ≠ [] := by
    intro hnil
    rw [hnil, List.nil_append] at hpath
    have hroot := (isApart_of_split h.split_eq).rooted h.authority_ne_nil ';' (by rw [hpath]; rfl)
    exact absurd hroot (by decide)
  by_contra hform
  obtain ⟨port, hport, hwritten⟩ := form_of_ne_nil hform
  obtain ⟨port', hport', hwritten'⟩ := form_of_ne_nil (heq ▸ hform)
  obtain rfl : port = port' := Except.ok.inj (hport.symm.trans hport')
  -- All but the path is the same in both.
  have hscheme : p.rejoined.scheme = p.scheme := rfl
  have hhost : p.rejoined.host = p.host := rfl
  have htail : (p.rejoined.canonical port).tail = (p.canonical port).tail := rfl
  have hlength := congrArg List.length heq
  rw [hwritten, hwritten', h.rejoined.unsplit_canonical hport' hne,
    h.unsplit_canonical hport (by rw [hpath]; simp), hscheme, hhost, htail, hpath] at hlength
  simp only [List.length_append, List.length_cons, List.length_nil] at hlength
  omega

end IsAbsolute

/-- **Where an absolute address was found matters to its canonical form only by a bare semicolon**
at the end of its path, which is lost at the bases that have the scheme of the address.  The bases
may be any texts that are read as addresses, and none, which is read as one without a scheme. -/
theorem canonical_base_iff {raw base base' : String} {p b b' : Parts}
    (h : IsAbsolute (Text.trim raw.toList) p) (hb : split base.toList = .ok b)
    (hb' : split base'.toList = .ok b') :
    (canonical raw base = canonical raw base' ↔
      p.endsBare = false ∨ (b.scheme = p.scheme ↔ b'.scheme = p.scheme) ∨
        canonical raw base = "" ∧ canonical raw base' = "") ∧
    (p.endsBare = false ∨ (b.scheme = p.scheme ↔ b'.scheme = p.scheme) →
      ∀ advert : Advert, advert.url = some raw → advert.listing base = advert.listing base') := by
  have hform : canonical raw base = String.ofList (p.seenFrom b).form :=
    congrArg String.ofList (canonicalChars_of_absolute h hb)
  have hform' : canonical raw base' = String.ofList (p.seenFrom b').form :=
    congrArg String.ofList (canonicalChars_of_absolute h hb')
  have hseen : p.endsBare = false ∨ (b.scheme = p.scheme ↔ b'.scheme = p.scheme) →
      canonical raw base = canonical raw base' := by
    intro hsame
    rw [hform, hform', Parts.seenFrom, Parts.seenFrom]
    rcases hsame with hbare | hschemes
    · simp [rejoined_eq_self h.scheme hbare]
    · simp [hschemes]
  refine ⟨⟨fun heq => ?_, ?_⟩, fun hsame advert hurl => ?_⟩
  · rw [← or_assoc, or_iff_not_imp_left, not_or]
    rintro ⟨hbare, hschemes⟩
    rw [← heq, and_self, hform]
    rw [hform, hform'] at heq
    have hchars := String.ofList_injective heq
    replace hbare : p.endsBare = true := by simpa using hbare
    by_cases hown : b.scheme = p.scheme
    · have hother : b'.scheme ≠ p.scheme := fun hother => hschemes (by simp [hown, hother])
      rw [Parts.seenFrom, Parts.seenFrom, if_pos hown, if_neg hother] at hchars
      rw [Parts.seenFrom, if_pos hown, hchars, h.form_eq_nil_of_rejoined hbare hchars]
    · have hother : b'.scheme = p.scheme := by
        by_contra hother
        exact hschemes (by simp [hown, hother])
      rw [Parts.seenFrom, Parts.seenFrom, if_neg hown, if_pos hother] at hchars
      rw [Parts.seenFrom, if_neg hown, h.form_eq_nil_of_rejoined hbare hchars.symm]
  · rintro (hbare | hschemes | ⟨hnone, hnone'⟩)
    · exact hseen (.inl hbare)
    · exact hseen (.inr hschemes)
    · rw [hnone, hnone']
  · unfold Advert.listing
    simp only [hurl, Option.getD_some, hseen hsame]

/-- Parameters with a name, and semicolons elsewhere, are kept at every base. -/
theorem canonical_base_iff_parameters :
    canonical " https://acme.example/jobs;x/1;v=2?b=1#/apply" "https://acme.example/careers" =
        canonical " https://acme.example/jobs;x/1;v=2?b=1#/apply" "http://jobs.example" ∧
      canonical " https://acme.example/jobs;x/1;v=2?b=1#/apply" "https://acme.example/careers" =
        canonical " https://acme.example/jobs;x/1;v=2?b=1#/apply" "" := by
  have habsolute : IsAbsolute (Text.trim " https://acme.example/jobs;x/1;v=2?b=1#/apply".toList)
      ⟨"https".toList, "acme.example".toList, "/jobs;x/1;v=2".toList, "b=1".toList,
        "/apply".toList⟩ := ⟨rfl, .inr rfl, by decide⟩
  have hown : split "https://acme.example/careers".toList =
      .ok ⟨"https".toList, "acme.example".toList, "/careers".toList, [], []⟩ := rfl
  have hother : split "http://jobs.example".toList =
      .ok ⟨"http".toList, "jobs.example".toList, [], [], []⟩ := rfl
  have hnone : split "".toList = .ok ⟨[], [], [], [], []⟩ := rfl
  exact ⟨(canonical_base_iff habsolute hown hother).1.mpr (.inl (by decide)),
    (canonical_base_iff habsolute hown hnone).1.mpr (.inl (by decide))⟩

/-- At a base of its own scheme an address loses a bare semicolon, and is no longer known by the
key it has elsewhere. -/
theorem canonical_base_semicolon :
    isWeb "https://acme.example/careers" = true ∧ isWeb "http://acme.example/careers" = true ∧
      canonical "https://acme.example/jobs/1;" "https://acme.example/careers" =
        "https://acme.example/jobs/1" ∧
      canonical "https://acme.example/jobs/1;" "http://acme.example/careers" =
        "https://acme.example/jobs/1;" ∧
      canonical "https://acme.example/jobs/1;" "" = "https://acme.example/jobs/1;" ∧
      ∀ title location : String,
        Identity.key? (canonical "https://acme.example/jobs/1;" "https://acme.example/careers")
            title location ≠
          Identity.key? (canonical "https://acme.example/jobs/1;" "http://acme.example/careers")
            title location := by
  have hown : canonical "https://acme.example/jobs/1;" "https://acme.example/careers" =
      "https://acme.example/jobs/1" := by decide +kernel
  have hother : canonical "https://acme.example/jobs/1;" "http://acme.example/careers" =
      "https://acme.example/jobs/1;" := by decide +kernel
  refine ⟨by decide +kernel, by decide +kernel, hown, hother, by decide +kernel,
    fun title location => ?_⟩
  rw [hown, hother]
  simp [Identity.key?]

end VacancyLedger.Address
