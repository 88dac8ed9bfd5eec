/-
The canonical form of an address, taken apart again.

What is taken off a query or a fragment is taken off once: of the parts that are left every
one is kept again.  The parts of the canonical form stand apart, so if it is an address of a
web page, those very parts are read of it; unless there is no authority to write.  Then an
address is read only where the path starts with two slashes, and what stands behind them is
taken for the authority, as it is.  From the first it follows that a host is found as it was
resolved, and that nothing changes if the parts are put into canonical form once more.
-/
import VacancyLedger.Proofs.Address.Host

namespace VacancyLedger.Address

variable {raw base url query fragment : List Char} {p q : Parts} {port : Option Nat}

/-! ### Queries and fragments -/

/-- The parts of a query that are not empty are those it was joined of. -/
theorem filter_splitAll_intercalate {parts : List (List Char)}
    (h : ∀ part ∈ parts, '&' ∉ part ∧ part ≠ []) :
    (Text.splitAll '&' (List.intercalate ['&'] parts)).filter (!·.isEmpty) = parts := by
  cases parts with
  | nil => rfl
  | cons part rest =>
      rw [Text.splitAll_intercalate (List.cons_ne_nil _ _) fun p hp => (h p hp).1,
        List.filter_eq_self]
      intro p hp
      simp [(h p hp).2]

theorem essentialParts_eq (query : List Char) :
    essentialParts query =
      ((Text.splitAll '&' query).filter (!·.isEmpty)).filter (!isTracking ·) := by
  rw [List.filter_filter]
  exact List.filter_congr fun part _ => Bool.and_comm ..

theorem of_mem_essentialParts {part : List Char} (h : part ∈ essentialParts query) :
    '&' ∉ part ∧ part ≠ [] ∧ isTracking part = false := by
  obtain ⟨hin, hkept⟩ := List.mem_filter.mp h
  exact ⟨(Text.mem_splitAll hin).1, by simpa using hkept⟩

theorem filter_splitAll_essentialQuery (query : List Char) :
    (Text.splitAll '&' (essentialQuery query)).filter (!·.isEmpty) = essentialParts query :=
  filter_splitAll_intercalate fun _ hpart =>
    ⟨(of_mem_essentialParts hpart).1, (of_mem_essentialParts hpart).2.1⟩

/-- What was kept of a query is kept again. -/
theorem essentialParts_essentialQuery (query : List Char) :
    essentialParts (essentialQuery query) = essentialParts query := by
  rw [essentialParts_eq, filter_splitAll_essentialQuery, List.filter_eq_self]
  intro part hpart
  simp [(of_mem_essentialParts hpart).2.2]

theorem essentialQuery_essentialQuery (query : List Char) :
    essentialQuery (essentialQuery query) = essentialQuery query := by
  rw [essentialQuery, essentialParts_essentialQuery, essentialQuery]

theorem mem_essentialQuery {c : Char} (h : c ∈ essentialQuery query) : c = '&' ∨ c ∈ query :=
  (Text.mem_intercalate h).imp_right fun ⟨_, hin, hc⟩ =>
    (Text.mem_splitAll (List.mem_filter.mp hin).1).2 c hc

theorem essentialFragment_essentialFragment (fragment : List Char) :
    essentialFragment (essentialFragment fragment) = essentialFragment fragment := by
  unfold essentialFragment
  grind

/-! ### Addresses of web pages -/

theorem isWebChars_iff :
    isWebChars url = true ↔
      (∀ c ∈ url, Text.isBlank c = false) ∧
        Text.contains placeholder (Text.lowerChars url) = false ∧
        ∃ p, split url = .ok p ∧ p.isWeb = true := by
  unfold isWebChars
  cases hsplit : split url with
  | error e => simp
  | ok p => simp [and_assoc]

theorem isSome_defaultPort?_iff {scheme : List Char} :
    (defaultPort? scheme).isSome = true ↔ scheme = "http".toList ∨ scheme = "https".toList := by
  unfold defaultPort?
  split
  · next hhttp => exact iff_of_true rfl (.inl hhttp)
  · next hhttp =>
      rw [or_iff_right hhttp]
      split
      · next hhttps => exact iff_of_true rfl hhttps
      · next hhttps => exact iff_of_false Bool.false_ne_true hhttps

theorem isWeb_iff :
    p.isWeb = true ↔
      (p.scheme = "http".toList ∨ p.scheme = "https".toList) ∧ p.host ≠ [] ∧
        ∃ port, p.port = .ok port ∧ port ≠ some 0 := by
  have hhost : (!p.host.isEmpty) = true ↔ p.host ≠ [] := by
    cases p.host with
    | nil => exact iff_of_false Bool.false_ne_true fun h => h rfl
    | cons c host => exact iff_of_true rfl (List.cons_ne_nil _ _)
  rw [Parts.isWeb, Bool.and_eq_true, Bool.and_eq_true, isSome_defaultPort?_iff, hhost, and_assoc]
  refine and_congr_right fun _ => and_congr_right fun _ => ?_
  cases p.port with
  | error e => exact iff_of_false Bool.false_ne_true nofun
  | ok port => exact ⟨fun h => ⟨port, rfl, bne_iff_ne.mp h⟩, fun ⟨_, rfl, h⟩ => bne_iff_ne.mpr h⟩

theorem isLowScheme_of_isWeb (h : p.isWeb = true) :
    IsLowScheme p.scheme ∧ String.ofList p.scheme ∈ schemesWithAuthority := by
  rcases (isWeb_iff.mp h).1 with hscheme | hscheme
  · rw [hscheme]
    decide
  · rw [hscheme]
    decide

/-- An address of a web page has a scheme of the web before its first colon. -/
theorem scheme_of_isWebChars {scheme rest : List Char} (hlow : IsLowScheme scheme)
    (h : isWebChars (scheme ++ ':' :: rest) = true) :
    scheme = "http".toList ∨ scheme = "https".toList := by
  obtain ⟨hblank, -, q, hsplit, hweb⟩ := isWebChars_iff.mp h
  have hscheme := (isWeb_iff.mp hweb).1
  rw [(splitWith_ok_iff.mp hsplit).1, schemeAndRest_written hlow hblank] at hscheme
  exact hscheme

/-! ### The parts of the canonical form -/

theorem host_of_no_authority (h : p.authority = []) : p.host = [] ∧ p.port = .ok none := by
  have hplace : p.hostAndPort = ([], none) := by
    rw [Parts.hostAndPort, h]
    rfl
  constructor
  · rw [Parts.host_eq, hplace]
    rfl
  · rw [Parts.port, hplace]

theorem canonical_authority (p : Parts) (port : Option Nat) :
    (p.canonical port).authority =
      bracketed p.host ++ portText (essentialPort p.scheme port) :=
  essentialAuthority_eq ..

theorem bracketed_ne_nil {host : List Char} (h : host ≠ []) : bracketed host ≠ [] := by
  unfold bracketed
  split
  · exact List.cons_ne_nil _ _
  · exact h

/-- The parts of the canonical form stand apart. -/
theorem isApart_canonical (hurl : split url = .ok p) (hport : p.port = .ok port) :
    (p.canonical port).IsApart where
  authority := by
    intro c hc
    rw [canonical_authority, List.mem_append] at hc
    rcases hc with hc | hc
    · rcases mem_bracketed hc with hc | rfl | rfl
      · exact (isHost_of_split hurl).marks c hc
      · decide
      · decide
    · rcases mem_portText hc with rfl | hdigit
      · decide
      · by_contra hmark
        rcases endsAuthority_iff.mp (by simpa using hmark) with rfl | rfl | rfl
        · cases hdigit
        · cases hdigit
        · cases hdigit
  path := by
    have hpath := (isApart_of_split hurl).path
    simp only [Parts.canonical]
    split
    · decide
    · exact hpath
  query := fun hin => (mem_essentialQuery hin).elim (by decide) (isApart_of_split hurl).query
  rooted := by
    intro hne c hc
    simp only [Parts.canonical] at hc
    split at hc
    · exact (Option.some.inj hc).symm
    · refine (isApart_of_split hurl).rooted (fun hnone => hne ?_) c hc
      -- Without an authority there is neither a host nor a port to write.
      obtain ⟨hhost, hfree⟩ := host_of_no_authority hnone
      rw [hport] at hfree
      cases hfree
      rw [canonical_authority, hhost]
      unfold essentialPort
      split <;> rfl

theorem canonical_path_ne_nil (p : Parts) (port : Option Nat) : (p.canonical port).path ≠ [] := by
  simp only [Parts.canonical]
  split
  · exact List.cons_ne_nil _ _
  · next hne => simpa using hne

/-- What is read of a canonical form that is an address of a web page: its parts, or, where there
is no authority to write, the same text in other parts. -/
theorem split_canonical (hurl : split url = .ok p) (hport : p.port = .ok port)
    (hblank : ∀ c ∈ unsplit (p.canonical port), Text.isBlank c = false)
    (h : split (unsplit (p.canonical port)) = .ok q) (hweb : q.isWeb = true) :
    q = p.canonical port ∨
      p.host = [] ∧ q = (p.canonical port).promoted ∧ unsplit q = unsplit (p.canonical port) := by
  have hapart := isApart_canonical hurl hport
  rcases scheme_of_split hurl with ⟨hnone, -⟩ | hlow
  · have hpath : cutScheme (p.canonical port).path = none ∧
        ∀ c ∈ (p.canonical port).path.head?, 32 < c.toNat := by
      simp only [Parts.canonical]
      split
      · exact ⟨cutScheme_of_head (by simp), by simp⟩
      · exact path_of_split hurl hnone
    have hfree : (p.canonical port).scheme = [] := hnone
    have hscheme : q.scheme = [] :=
      scheme_of_split_unsplit hfree (canonical_path_ne_nil p port) hpath h hblank
    exact absurd hscheme (isLowScheme_of_isWeb hweb).1.1.ne_nil
  · replace hlow : IsLowScheme (p.canonical port).scheme := hlow
    by_cases hnone : (p.canonical port).authority = []
    · have hknown : String.ofList (p.canonical port).scheme ∈ schemesWithAuthority := by
        have hscheme := (isLowScheme_of_isWeb hweb).2
        rwa [eq_partsBehind_of_split hlow hblank h] at hscheme
      have hhost : p.host = [] := by
        by_contra hne
        rw [canonical_authority] at hnone
        exact bracketed_ne_nil hne (List.append_eq_nil_iff.mp hnone).1
      rcases split_unsplit_of_no_authority hapart hlow hknown hnone hblank h with hfree | hq
      · exact absurd (host_of_no_authority hfree).1 (isWeb_iff.mp hweb).2.1
      · exact .inr ⟨hhost, hq⟩
    · exact .inl (eq_of_split_unsplit hapart hlow hnone hblank h)

/-! ### The canonical form -/

theorem resolve_eq (raw base : List Char) :
    resolve raw base = do
      let url ← (if base.isEmpty then .ok raw else join base raw : Except Error (List Char))
      let parts ← split url
      let port ← parts.port
      return (parts, port) := by
  unfold resolve
  split <;> rfl

theorem resolve_ok (h : resolve raw base = .ok (p, port)) :
    (∃ url, split url = .ok p) ∧ p.port = .ok port := by
  rw [resolve_eq] at h
  obtain ⟨url, -, h⟩ := bind_ok h
  obtain ⟨parts, hsplit, h⟩ := bind_ok h
  obtain ⟨found, hport, h⟩ := bind_ok h
  cases h
  exact ⟨⟨url, hsplit⟩, hport⟩

/-- Where there is a canonical form, it is written from the parts that were resolved. -/
theorem canonicalChars_ne_nil (h : canonicalChars raw base ≠ []) :
    ∃ p port, resolve (Text.trim raw) base = .ok (p, port) ∧
      canonicalChars raw base = unsplit (p.canonical port) ∧
      isWebChars (canonicalChars raw base) = true := by
  unfold canonicalChars at h ⊢
  simp only at h ⊢
  split at h
  · exact absurd rfl h
  · next hfull =>
      split at h
      · exact absurd rfl h
      · next p port hresolve =>
          split at h
          · next hweb =>
              rw [if_neg hfull, if_pos hweb]
              exact ⟨p, port, hresolve, rfl, hweb⟩
          · exact absurd rfl h

/-- The text is a canonical form of the parts `p`, and `q` is what is read of it. -/
structure IsReadOf (url : List Char) (p : Parts) (port : Option Nat) (q : Parts) : Prop where
  web : isWebChars url = true
  split_eq : split url = .ok q
  unsplit_eq : unsplit q = url
  parts : q = p.canonical port ∨ p.host = [] ∧ q = (p.canonical port).promoted

theorem exists_isReadOf (h : canonicalChars raw base ≠ []) :
    ∃ p port q, resolve (Text.trim raw) base = .ok (p, port) ∧
      IsReadOf (canonicalChars raw base) p port q := by
  obtain ⟨p, port, hresolve, hurl, hweb⟩ := canonicalChars_ne_nil h
  obtain ⟨hblank, -, q, hsplit, hq⟩ := isWebChars_iff.mp hweb
  obtain ⟨⟨url, hp⟩, hport⟩ := resolve_ok hresolve
  rw [hurl] at hweb hblank hsplit ⊢
  have hcases := split_canonical hp hport hblank hsplit hq
  have hunsplit : unsplit q = unsplit (p.canonical port) :=
    hcases.elim (fun heq => by rw [heq]) fun h => h.2.2
  exact ⟨p, port, q, hresolve, hweb, hsplit, hunsplit, hcases.imp_right fun h => ⟨h.1, h.2.1⟩⟩

theorem essentialPort_essentialPort (scheme : List Char) (port : Option Nat) :
    essentialPort scheme (essentialPort scheme port) = essentialPort scheme port := by
  unfold essentialPort
  grind

theorem hostAndPort_canonical (hurl : split url = .ok p) (hport : p.port = .ok port)
    (hbrackets : checkBrackets (p.canonical port).authority = .ok ()) :
    (p.canonical port).host = p.host ∧
      (p.canonical port).port = .ok (essentialPort p.scheme port) := by
  have hread := hostAndPort_of_written (isHost_of_split hurl) (canonical_authority p port) hbrackets
  constructor
  · rw [Parts.host_eq, hread, Parts.host_eq, lowHost_lowHost]
  · refine port_of_written (fun n hn => ?_) hread
    unfold essentialPort at hn
    split at hn
    · cases hn
    · rw [hn] at hport
      exact port_le_of_port hport

/-- Which parts are left as they are, if nothing is to be taken off query and fragment. -/
theorem canonical_eq_self_iff (hquery : essentialQuery q.query = q.query)
    (hfragment : essentialFragment q.fragment = q.fragment) :
    q.canonical port = q ↔
      q.authority = essentialAuthority q.scheme q.host port ∧ q.path ≠ [] := by
  constructor
  · intro h
    have hpath := canonical_path_ne_nil q port
    rw [h] at hpath
    exact ⟨(congrArg Parts.authority h).symm, hpath⟩
  · rintro ⟨hauthority, hpath⟩
    cases q with
    | mk scheme authority path query fragment =>
        simp only at hquery hfragment hauthority hpath
        simp [Parts.canonical, hquery, hfragment, ← hauthority, hpath]

/-- What was left of parts is left of it again. -/
theorem canonical_canonical (hhost : (p.canonical port).host = p.host) :
    (p.canonical port).canonical (essentialPort p.scheme port) = p.canonical port := by
  refine (canonical_eq_self_iff (essentialQuery_essentialQuery _)
    (essentialFragment_essentialFragment _)).mpr ⟨?_, canonical_path_ne_nil p port⟩
  rw [essentialAuthority_eq, canonical_authority, hhost]
  exact congrArg (fun port => bracketed p.host ++ portText port)
    (essentialPort_essentialPort p.scheme port).symm

namespace IsReadOf

variable {url : List Char}

theorem free (h : IsReadOf url p port q) : ∀ c ∈ url, Text.isBlank c = false :=
  (isWebChars_iff.mp h.web).1

theorem web_parts (h : IsReadOf url p port q) : q.isWeb = true := by
  obtain ⟨-, -, q', hsplit, hweb⟩ := isWebChars_iff.mp h.web
  rw [h.split_eq] at hsplit
  rwa [Except.ok.inj hsplit]

theorem query_eq (h : IsReadOf url p port q) : q.query = essentialQuery p.query := by
  rcases h.parts with rfl | ⟨-, rfl⟩
  · rfl
  · rfl

theorem fragment_eq (h : IsReadOf url p port q) : q.fragment = essentialFragment p.fragment := by
  rcases h.parts with rfl | ⟨-, rfl⟩
  · rfl
  · rfl

theorem brackets (h : IsReadOf url p port q) : checkBrackets q.authority = .ok () :=
  (splitWith_ok_iff.mp h.split_eq).2.1

/-- Where the resolved text has a host, the canonical form is read as the parts it was made of. -/
theorem eq_canonical (h : IsReadOf url p port q) (hhost : p.host ≠ []) : q = p.canonical port :=
  h.parts.resolve_right fun hnone => hhost hnone.1

end IsReadOf

end VacancyLedger.Address
