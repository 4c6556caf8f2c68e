import LiveTail.Proofs.Segments
import LiveTail.Proofs.Verdict
/-! The socket that belongs to a page. What the parser says of a page is enough for every change
that is made to its URL: the new scheme is never refused, and all else of the page stays as it was
read. -/
namespace LiveTail

namespace Url

/-! ### What the parser says of a URL with a host -/

theorem readHost_ne_empty (cs : List Char) : readHost cs ≠ .ok (.name []) := by
  intro h
  unfold readHost at h
  split at h
  · unfold readBracketed at h
    split at h
    · split at h <;> cases h
    · cases h
  · split at h
    · cases h
    · cases h
    · rename_i name hname _
      split at h
      · split at h <;> cases h
      · injection h with h
        injection h with h
        contradiction

theorem readPort_eq_ok {scheme : String} {cs : List Char} {port : Option Nat} {r : List Char}
    (h : readPort scheme cs = .ok (port, r)) (p : Nat) (hp : port = some p) :
    defaultPort? scheme ≠ some p := by
  let n := Text.digitsValue (cs.takeWhile Char.isDigit)
  have hport : port = if (cs.takeWhile Char.isDigit).isEmpty || defaultPort? scheme = some n
      then none else some n := by
    unfold readPort at h
    dsimp only at h
    split at h
    · cases h
    · split at h
      · injection h with h
        exact (Prod.mk.inj h).1.symm
      · injection h with h
        exact (Prod.mk.inj h).1.symm
      · cases h
  rw [hp] at hport
  split at hport
  · cases hport
  · rename_i hgiven
    rw [Option.some.inj hport]
    simp only [Bool.or_eq_true, decide_eq_true_eq, not_or] at hgiven
    exact hgiven.2

theorem readHostPort_hosted {scheme : String} (hkind : schemeKind scheme = .hosted)
    {user password cs : List Char} {a : Authority} {r : List Char}
    (h : readHostPort scheme user password cs = .ok (a, r)) :
    a.host.isSome = true ∧ ∀ p, a.port = some p → defaultPort? scheme ≠ some p := by
  simp only [readHostPort, hkind, reduceCtorEq, if_false] at h
  split at h
  · cases h
  · obtain ⟨host, hhost, h⟩ := bind_eq_ok_iff.1 h
    have hne : host ≠ .name [] := by
      rintro rfl
      exact readHost_ne_empty _ hhost
    simp only [if_neg hne, Option.isNone_some, Bool.false_and, Bool.false_eq_true, if_false] at h
    split at h
    · injection h with h
      obtain ⟨rfl, -⟩ := Prod.mk.inj h
      exact ⟨rfl, fun p hp => by cases hp⟩
    · obtain ⟨⟨port, r'⟩, hport, h⟩ := bind_eq_ok_iff.1 h
      injection h with h
      obtain ⟨rfl, -⟩ := Prod.mk.inj h
      exact ⟨rfl, readPort_eq_ok hport⟩

theorem readAuthority_hosted {scheme : String} (hkind : schemeKind scheme = .hosted)
    {cs : List Char} {a : Authority} {r : List Char} (h : readAuthority scheme cs = .ok (a, r)) :
    a.host.isSome = true ∧ ∀ p, a.port = some p → defaultPort? scheme ≠ some p := by
  unfold readAuthority at h
  dsimp only at h
  split at h
  · obtain ⟨⟨a', r'⟩, hread, h⟩ := bind_eq_ok_iff.1 h
    injection h with h
    obtain ⟨rfl, -⟩ := Prod.mk.inj h
    exact readHostPort_hosted hkind hread
  · split at h
    · cases h
    · obtain ⟨⟨a', r'⟩, hread, h⟩ := bind_eq_ok_iff.1 h
      injection h with h
      obtain ⟨rfl, -⟩ := Prod.mk.inj h
      exact readHostPort_hosted hkind hread
  · obtain ⟨⟨a', r'⟩, hread, h⟩ := bind_eq_ok_iff.1 h
    injection h with h
    obtain ⟨rfl, -⟩ := Prod.mk.inj h
    exact readHostPort_hosted hkind hread

theorem readFile_scheme {cs : List Char} {u : Url} (h : readFile cs = .ok u) :
    u.scheme = "file" := by
  unfold readFile at h
  dsimp only at h
  split at h
  · split at h
    · split at h
      · injection h with h; rw [← h]; rfl
      · obtain ⟨host, -, h⟩ := bind_eq_ok_iff.1 h
        injection h with h; rw [← h]; rfl
    · injection h with h; rw [← h]; rfl
  · injection h with h; rw [← h]; rfl

theorem readHosted_eq_ok {scheme : String} {cs : List Char} {u : Url}
    (h : readHosted scheme cs = .ok u) : ∃ a r, readAuthority scheme cs = .ok (a, r) ∧
      u.scheme = scheme ∧ u.authority = some a ∧
      u.path = readPath (schemeKind scheme) (splitSuffix r).1 := by
  obtain ⟨⟨a, r⟩, hread, h⟩ := bind_eq_ok_iff.1 h
  injection h with h
  exact ⟨a, r, hread, by rw [← h]; rfl, by rw [← h]; rfl, by rw [← h]; rfl⟩

theorem readOther_scheme {scheme : String} {cs : List Char} {u : Url}
    (h : readOther scheme cs = .ok u) : u.scheme = scheme := by
  unfold readOther at h
  split at h
  · obtain ⟨a, r, -, hs, -⟩ := readHosted_eq_ok h
    exact hs
  · injection h with h; rw [← h]; rfl

/-- A URL of a scheme of hosts has a host, a port only if it is not the one of the scheme, and a
path that was read as the path of such a URL. -/
structure Hosted (u : Url) (a : Authority) : Prop where
  kind : schemeKind u.scheme = .hosted
  authority : u.authority = some a
  host : a.host.isSome = true
  port : ∀ p, a.port = some p → defaultPort? u.scheme ≠ some p
  path : ∃ cs, u.path = readPath .hosted cs

theorem hosted_of_parse {cs : List Char} {u : Url} (h : parse cs = .ok u)
    (hkind : schemeKind u.scheme = .hosted) : ∃ a, u.Hosted a := by
  unfold parse at h
  dsimp only at h
  split at h
  · cases h
  · split at h
    · rename_i hscheme
      obtain ⟨a, r, hread, hs, ha, hpath⟩ := readHosted_eq_ok h
      obtain ⟨hhost, hport⟩ := readAuthority_hosted hscheme hread
      rw [hscheme] at hpath
      exact ⟨a, hkind, ha, hhost, by rwa [hs], _, hpath⟩
    · rw [readFile_scheme h] at hkind
      cases hkind
    · rename_i hscheme
      rw [readOther_scheme h, hscheme] at hkind
      cases hkind

/-- A port that is left out behind neither of two schemes is the same behind both. -/
theorem Hosted.behind {u : Url} {a : Authority} (h : u.Hosted a) {scheme : String}
    (hport : defaultPort? scheme = defaultPort? u.scheme) : a.behind scheme = a := by
  have hkeep : a.port.filter (fun p => defaultPort? scheme ≠ some p) = a.port := by
    cases hp : a.port with
    | none => rfl
    | some p =>
      have hne : defaultPort? scheme ≠ some p := by
        rw [hport]
        exact h.port p hp
      simp [Option.filter, hne]
  rw [Authority.behind, hkeep]

end Url

/-- The schemes that a page can have. -/
def pageSchemes : List String := ["http", "https", "ws", "wss"]

/-- A path with a slash at its end. -/
def withSlash (path : List Char) : List Char :=
  if path.getLast? = some '/' then path else path ++ ['/']

/-- The scheme of a socket is one of those of a page, with the same port. -/
theorem socketScheme?_cases (scheme : String) :
    (scheme ∉ pageSchemes ∧ socketScheme? scheme = none) ∨
    (scheme ∈ pageSchemes ∧ ∃ s, socketScheme? scheme = some s ∧
      s = (if scheme ∈ ["http", "ws"] then "ws" else "wss") ∧
      Url.readScheme? (s.toList ++ [':']) = some (s, []) ∧
      Url.schemeKind s = .hosted ∧ Url.schemeKind scheme = .hosted ∧
      Url.defaultPort? s = Url.defaultPort? scheme) := by
  by_cases hscheme : scheme ∈ pageSchemes
  · right
    refine ⟨hscheme, ?_⟩
    simp only [pageSchemes, List.mem_cons, List.not_mem_nil, or_false] at hscheme
    rcases hscheme with rfl | rfl | rfl | rfl
    all_goals exact ⟨_, rfl, by decide +kernel⟩
  · left
    refine ⟨hscheme, ?_⟩
    simp only [pageSchemes, List.mem_cons, List.not_mem_nil, or_false, not_or] at hscheme
    simp [socketScheme?, hscheme]

/-- The URL of a page of a scheme that has a socket is changed part by part, and each change does to
its part what it is meant to do and nothing to the others. -/
theorem socketEndpoint_of_parse {page : String} {url : Url}
    (hparse : Url.parse (Text.trim page.toList) = .ok url) (hscheme : url.scheme ∈ pageSchemes) :
    ∃ a, url.Hosted a ∧ socketEndpoint page =
      .ok ⟨if url.scheme ∈ ["http", "ws"] then "ws" else "wss", some a,
        withSlash url.path ++ "socket".toList, none, none⟩ := by
  obtain ⟨s, hs, hname, hread, hkind, hpage, hport⟩ :=
    ((socketScheme?_cases url.scheme).resolve_left fun h => h.1 hscheme).2
  obtain ⟨a, ha⟩ := Url.hosted_of_parse hparse hpage
  have hset : url.setScheme? s = some { url with scheme := s, authority := some a } := by
    have hhost : url.host?.isSome = true := by
      rw [Url.host?, ha.authority]
      exact ha.host
    rw [Url.setScheme?, hread]
    simp only [hkind, hpage, hhost, if_true, ha.authority, Option.map_some, ha.behind hport]
  -- the path of the page is settled, and so is the one below it
  obtain ⟨cs, hpath⟩ := ha.path
  obtain ⟨settled, hne, hsettled, hcs⟩ := Url.readPath_settled cs
  obtain ⟨below, hbelow, hall, hsocket⟩ := socketPath_rooted settled hne hsettled
  have hpaths : socketPath url.path = Url.rooted below := by rw [hpath, hcs, hsocket]
  refine ⟨a, ha, ?_⟩
  simp only [socketEndpoint, hparse, hs, hset, hpaths]
  rw [Url.setPath_rooted _ hkind below hbelow hall, ← hpaths, ← hname]
  rfl

/-- The endpoint of a page, for every text. If the trimmed text is a URL of a scheme that has a
socket, there is an endpoint: it has the WebSocket scheme of that scheme, the user name, password,
host and port of the page, no query and no fragment, and the very path of the page up to a slash at
its end, with one more segment. So two such pages have the same endpoint exactly if they agree in
how the socket is secured, in all between scheme and path, and in the path up to a slash at its end.
Any other text has none, for want of a URL or of a scheme, and never for another reason. -/
theorem endpoint_of_page (page : String) :
    (∀ url, Url.parse (Text.trim page.toList) = .ok url → url.scheme ∈ pageSchemes →
      ∃ a, url.authority = some a ∧ a.host.isSome = true ∧
        (∀ p, a.port = some p → Url.defaultPort? url.scheme ≠ some p) ∧
        socketEndpoint page = .ok ⟨if url.scheme ∈ ["http", "ws"] then "ws" else "wss", some a,
          withSlash url.path ++ "socket".toList, none, none⟩) ∧
    (∀ page' url url', Url.parse (Text.trim page.toList) = .ok url → url.scheme ∈ pageSchemes →
      Url.parse (Text.trim page'.toList) = .ok url' → url'.scheme ∈ pageSchemes →
      (socketEndpoint page = socketEndpoint page' ↔
        (url.scheme ∈ ["http", "ws"] ↔ url'.scheme ∈ ["http", "ws"]) ∧
        url.authority = url'.authority ∧ withSlash url.path = withSlash url'.path)) ∧
    (∀ url, Url.parse (Text.trim page.toList) = .ok url → url.scheme ∉ pageSchemes →
      socketEndpoint page =
        .error (.unsupportedScheme (.ofList (Text.trim page.toList)) url.scheme)) ∧
    (∀ fault, Url.parse (Text.trim page.toList) = .error fault →
      socketEndpoint page = .error (.invalidUrl (.ofList (Text.trim page.toList)) fault)) ∧
    ∀ input, socketEndpoint page ≠ .error (.schemeFixed input) := by
  have unsupported {url : Url} (hparse : Url.parse (Text.trim page.toList) = .ok url)
      (hscheme : url.scheme ∉ pageSchemes) : socketEndpoint page =
        .error (.unsupportedScheme (.ofList (Text.trim page.toList)) url.scheme) := by
    have hnone : socketScheme? url.scheme = none :=
      ((socketScheme?_cases url.scheme).resolve_right fun h => hscheme h.1).2
    simp only [socketEndpoint, hparse, hnone]
  have invalid {fault : UrlFault} (hparse : Url.parse (Text.trim page.toList) = .error fault) :
      socketEndpoint page = .error (.invalidUrl (.ofList (Text.trim page.toList)) fault) := by
    simp only [socketEndpoint, hparse]
  refine ⟨?_, ?_, fun url hparse hscheme => unsupported hparse hscheme,
    fun fault hparse => invalid hparse, ?_⟩
  · intro url hparse hscheme
    obtain ⟨a, ha, hsocket⟩ := socketEndpoint_of_parse hparse hscheme
    exact ⟨a, ha.authority, ha.host, ha.port, hsocket⟩
  · intro page' url url' hparse hscheme hparse' hscheme'
    obtain ⟨a, ha, hsocket⟩ := socketEndpoint_of_parse hparse hscheme
    obtain ⟨a', ha', hsocket'⟩ := socketEndpoint_of_parse hparse' hscheme'
    rw [hsocket, hsocket', ha.authority, ha'.authority, Except.ok.injEq, Url.mk.injEq]
    have hscheme : ((if url.scheme ∈ ["http", "ws"] then "ws" else "wss") =
        if url'.scheme ∈ ["http", "ws"] then "ws" else "wss") ↔
        (url.scheme ∈ ["http", "ws"] ↔ url'.scheme ∈ ["http", "ws"]) := by
      split <;> split <;> simp_all
    rw [hscheme, List.append_cancel_right_eq]
    simp only [and_true]
  · intro input hfixed
    cases hparse : Url.parse (Text.trim page.toList) with
    | error fault =>
      rw [invalid hparse] at hfixed
      cases hfixed
    | ok url =>
      by_cases hscheme : url.scheme ∈ pageSchemes
      · obtain ⟨a, -, hsocket⟩ := socketEndpoint_of_parse hparse hscheme
        rw [hsocket] at hfixed
        cases hfixed
      · rw [unsupported hparse hscheme] at hfixed
        cases hfixed

/-- Query, fragment, a dot segment and the scheme make no difference to the endpoint, and what is
encoded in the path stays as it is. -/
theorem endpoint_of_two_pages :
    let page := " http://u:p@[::1]:8080/a%2F/%2e/b c?x#y"
    let other := "WS:u:p@[::1]:8080\\a%2F\\b%20c/"
    let authority : Authority :=
      ⟨['u'], ['p'], some (.ipv6 [0, 0, 0, 0, 0, 0, 0, 1]), some 8080⟩
    socketEndpoint page = socketEndpoint other ∧
      socketEndpoint page =
        .ok ⟨"ws", some authority, "/a%2F/b%20c/socket".toList, none, none⟩ := by
  intro page other authority
  have hpage : Url.parse (Text.trim page.toList) =
      .ok ⟨"http", some authority, "/a%2F/b%20c".toList, some ['x'], some ['y']⟩ := by
    decide +kernel
  have hother : Url.parse (Text.trim other.toList) =
      .ok ⟨"ws", some authority, "/a%2F/b%20c/".toList, none, none⟩ := by
    decide +kernel
  obtain ⟨hsocket, hsame, -⟩ := endpoint_of_page page
  refine ⟨?_, ?_⟩
  · exact (hsame other _ _ hpage (by decide) hother (by decide)).2 (by decide)
  · obtain ⟨a, ha, -, -, h⟩ := hsocket _ hpage (by decide)
    rw [h, ← ha]
    decide

end LiveTail
