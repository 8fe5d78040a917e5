import QueryFence.Jira.Endpoint
import QueryFence.Proofs.Jira.Host
import QueryFence.Proofs.Text.Token

/-!
Where an address leads to: scheme, host and port. The address of a path of a service leads where the
address of the service leads, and another query leaves that alone, although it has the whole address
read once more.
-/

namespace QueryFence

namespace Text

theorem toNat_le_of_isDigit {c : Char} (h : c.isDigit = true) : 48 ≤ c.toNat ∧ c.toNat ≤ 57 := by
  have h0 : '0'.toNat = 48 := rfl
  have h9 : '9'.toNat = 57 := rfl
  have hd := Char.isDigit_iff_toNat.1 h
  omega

/-- A digit of ASCII has its usual value. -/
theorem digitValue?_of_isDigit {c : Char} (h : c.isDigit = true) :
    digitValue? c = some (c.toNat - '0'.toNat) := by
  obtain ⟨hlow, hhigh⟩ := toNat_le_of_isDigit h
  rw [digitValue?, zeros, List.find?_cons_of_pos]
  · rfl
  · simp only [Bool.and_eq_true, decide_eq_true_eq]
    omega

theorem digitValues?_of_isDigit {t : Text} (hne : t ≠ []) (h : ∀ c ∈ t, c.isDigit = true) :
    digitValues? t = some (t.map fun c => c.toNat - '0'.toNat) := by
  induction t with
  | nil => exact absurd rfl hne
  | cons c t ih =>
    have hc := digitValue?_of_isDigit (h c List.mem_cons_self)
    cases t with
    | nil => rw [digitValues?.eq_3 c _ hc, List.map_singleton]
    | cons d t =>
      have hrest := ih (List.cons_ne_nil d t) fun e he => h e (List.mem_cons_of_mem c he)
      have hd : d ≠ '_' := ne_of_isDigit (h d (by simp)) (by decide)
      rw [digitValues?.eq_5 c (d :: t) _ hc (List.cons_ne_nil d t)
        (fun _ heq => hd (List.cons.inj heq).1), hrest]
      rfl

theorem foldl_digits (digits : Text) (n : Nat) :
    (digits.map fun c => c.toNat - '0'.toNat).foldl (fun n d => 10 * n + d) n =
      Nat.ofDigitChars 10 digits n := by
  induction digits generalizing n with
  | nil => rfl
  | cons c digits ih => exact ih _

/-- A text that starts with no sign is read as the number of its digits. -/
theorem integer?_of_digitValues? {t : Text} {digits : List Nat} (ht : trim t = t)
    (hminus : ∀ rest, t = '-' :: rest → False) (hplus : ∀ rest, t = '+' :: rest → False)
    (hd : digitValues? t = some digits) :
    integer? t = if numeralLimit < digits.length then none
      else some ((digits.foldl (fun n d => 10 * n + d) 0 : Nat) : Int) := by
  simp [integer?, ht, hd]

/-- A number that is read out of the digits of another one is that number. -/
theorem integer?_ofInt {n m : Int} (h : integer? (ofInt n) = some m) : m = n := by
  have hvalue : ∀ k : Nat, ((ofNat k).map fun c => c.toNat - '0'.toNat).foldl
      (fun (n d : Nat) => 10 * n + d) 0 = k := fun k =>
    (foldl_digits _ 0).trans Nat.ofDigitChars_ten_toDigits
  have hdigits : ∀ k : Nat, digitValues? (ofNat k) =
      some ((ofNat k).map fun c => c.toNat - '0'.toNat) := fun k =>
    digitValues?_of_isDigit Nat.toDigits_ne_nil fun c hc => isDigit_of_mem_ofNat hc
  cases n with
  | ofNat k =>
    obtain ⟨c, more, hk, hc⟩ := ofNat_eq_cons k
    have hsign : ∀ d : Char, d.isDigit = false → ∀ rest, ofNat k = d :: rest → False := by
      intro d hd rest he
      rw [hk] at he
      exact ne_of_isDigit hc hd (List.cons.inj he).1
    rw [ofInt, integer?_of_digitValues? (isToken_ofNat k).1.trim (hsign '-' (by decide))
      (hsign '+' (by decide)) (hdigits k), hvalue] at h
    split at h
    · cases h
    · exact (Option.some.inj h).symm
  | negSucc k =>
    have htrim : trim ('-' :: ofNat (k + 1)) = '-' :: ofNat (k + 1) := by
      refine (IsToken.of_solid (List.cons_ne_nil _ _) fun c hc => ?_).1.trim
      rcases List.mem_cons.1 hc with rfl | hc
      · exact ⟨by decide, by decide⟩
      · have hd := isDigit_of_mem_ofNat hc
        exact ⟨isBlank_of_isDigit (isDigit_of_ascii hd), ne_of_isDigit hd (by decide)⟩
    rw [ofInt, integer?, htrim] at h
    simp only [hdigits, hvalue] at h
    split at h
    · cases h
    · rw [← Option.some.inj h]
      rfl

theorem lowerAscii_lowerAscii (t : Text) : lowerAscii (lowerAscii t) = lowerAscii t := by
  rw [lowerAscii, lowerAscii, List.map_map]
  apply List.map_congr_left
  intro c _
  by_cases hc : c.toNat < 128
  · exact forall_ascii (P := fun c => c.toLower.toLower = c.toLower) (by decide +kernel) hc
  · have hlower : c.toLower = c := dif_neg fun h => hc (Nat.lt_of_le_of_lt h.2 (by decide))
    rw [Function.comp, hlower, hlower]

end Text

namespace Endpoint

variable {e own : Endpoint} {scheme authority path host : Text} {query fragment : Option Text}

/-- The scheme of an address, its host in small letters, and its port, the usual one of the scheme where
the address has none. -/
def origin (e : Endpoint) : Text × Text × Option Int :=
  (e.scheme, Text.lowerAscii e.host, e.port <|> usualPorts.lookup e.scheme)

/-- What is behind the user in the part between the two slashes and the path. -/
def placeOf (authority : Text) : Text := (Text.splitLast '@' authority).2

/-- An address is made of its parts one by one, with no regard to path, query and fragment but where
these are kept. -/
theorem build_eq_ok (hs : scheme ≠ []) (h : build scheme authority path query fragment = .ok e) :
    e.scheme = Text.lowerAscii scheme ∧
      e.userInfo = Percent.escape isUserChar ((Text.splitLast '@' authority).1.getD []) ∧
      Host.read (splitPort (placeOf authority)).1 = .ok e.host ∧
      readPort scheme (splitPort (placeOf authority)).2 = .ok e.port := by
  rw [build] at h
  dsimp only at h
  obtain ⟨name, hname, h⟩ := Steps.bind_eq_ok_iff.1 h
  obtain ⟨port, hport, h⟩ := Steps.bind_eq_ok_iff.1 h
  have hempty : (scheme.isEmpty && (Percent.escape isUserChar
      ((Text.splitLast '@' authority).1.getD [])).isEmpty && name.isEmpty && port.isNone) = false := by
    rw [List.isEmpty_eq_false_iff.2 hs]
    rfl
  rw [hempty, if_neg Bool.false_ne_true] at h
  cases h
  exact ⟨rfl, rfl, hname, hport⟩

/-- Two addresses with the same scheme and the same part before the path lead to the same place. -/
theorem build_origin {path' : Text} {query' fragment' : Option Text} (hs : scheme ≠ [])
    (h : build scheme authority path query fragment = .ok own)
    (h' : build scheme authority path' query' fragment' = .ok e) :
    e.scheme = own.scheme ∧ e.userInfo = own.userInfo ∧ e.host = own.host ∧ e.port = own.port := by
  obtain ⟨hscheme, huser, hhost, hport⟩ := build_eq_ok hs h
  obtain ⟨hscheme', huser', hhost', hport'⟩ := build_eq_ok hs h'
  rw [hhost] at hhost'
  rw [hport] at hport'
  exact ⟨hscheme'.trans hscheme.symm, huser'.trans huser.symm, (Except.ok.inj hhost').symm,
    (Except.ok.inj hport').symm⟩

theorem scheme_ne_nil_of_build (h : build scheme authority path query fragment = .ok e)
    (hs : e.scheme ≠ []) : scheme ≠ [] := by
  rintro rfl
  rw [build] at h
  dsimp only at h
  obtain ⟨name, -, h⟩ := Steps.bind_eq_ok_iff.1 h
  obtain ⟨port, -, h⟩ := Steps.bind_eq_ok_iff.1 h
  split at h
  · split at h
    · cases h
    · split at h
      · cases h
      · cases h
        exact hs rfl
  · cases h
    exact hs rfl

theorem read_nil : Host.read (splitPort (placeOf [])).1 = .ok [] := by decide

/-- What names no scheme or no host is read as a path alone. -/
theorem scheme_of_rebuild (h : rebuild [] [] path query fragment = .ok e) : e.scheme = [] := by
  rw [rebuild] at h
  split at h
  · cases h
  · apply Classical.byContradiction
    intro hs
    exact scheme_ne_nil_of_build h hs rfl

theorem splitScheme_eq {t rest : Text} (h : splitScheme t = (scheme, rest)) (hs : scheme ≠ []) :
    t = scheme ++ ':' :: rest ∧ ∀ more, splitScheme (scheme ++ ':' :: more) = (scheme, more) := by
  rw [splitScheme] at h
  split at h
  · cases h
    exact absurd rfl hs
  next hc =>
    have hmem : ':' ∈ t := by
      rwa [Bool.not_eq_true, Bool.not_eq_false', List.contains_iff_mem] at hc
    obtain ⟨front, behind, ht, hfront⟩ := List.eq_append_cons_of_mem hmem
    subst ht
    rw [Text.partition_append_cons hfront] at h
    cases front with
    | nil =>
      cases h
      exact absurd rfl hs
    | cons c more =>
      dsimp only at h
      split at h
      · next hscheme =>
        cases h
        refine ⟨rfl, fun rest => ?_⟩
        rw [splitScheme, if_neg (by simp), Text.partition_append_cons hfront]
        exact if_pos hscheme
      · cases h
        exact absurd rfl hs

/-- Whether nothing is left of an address before its path, query or fragment. -/
def IsTail (t : Text) : Prop := ∀ c ∈ t.head?, endsAuthority c = true

theorem splitAuthority_append (hauthority : ∀ c ∈ authority, endsAuthority c = false) {tail : Text}
    (ht : IsTail tail) : splitAuthority ('/' :: '/' :: (authority ++ tail)) = (authority, tail) := by
  have hall : ∀ c ∈ authority, (!endsAuthority c) = true := fun c hc => by
    rw [hauthority c hc]
    rfl
  rw [splitAuthority, List.takeWhile_append_of_pos hall, List.dropWhile_append_of_pos hall]
  cases tail with
  | nil => simp
  | cons d tail =>
    have hd : endsAuthority d = true := ht d rfl
    simp [hd]

theorem splitAuthority_eq {t tail : Text} (h : splitAuthority t = (authority, tail))
    (ha : authority ≠ []) :
    t = '/' :: '/' :: (authority ++ tail) ∧ (∀ c ∈ authority, endsAuthority c = false) ∧
      IsTail tail := by
  rw [splitAuthority.eq_def] at h
  split at h
  · next rest =>
    cases h
    refine ⟨by rw [List.takeWhile_append_dropWhile], fun c hc => ?_, fun c hc => ?_⟩
    · simpa using List.mem_takeWhile_imp hc
    · have hd := List.head?_dropWhile_not (fun c => !endsAuthority c) rest
      rw [Option.mem_def.1 hc] at hd
      simpa using hd
  · cases h
    exact absurd rfl ha

/-- A URL of a service: its scheme, the part between the two slashes and the path, and what follows. -/
structure IsWritten (url : Text) (own : Endpoint) (scheme authority tail : Text) : Prop where
  url_eq : url = scheme ++ ':' :: '/' :: '/' :: (authority ++ tail)
  scheme_ne_nil : scheme ≠ []
  authority_ne_nil : authority ≠ []
  splitScheme_eq : ∀ more, splitScheme (scheme ++ ':' :: more) = (scheme, more)
  ends : ∀ c ∈ authority, endsAuthority c = false
  isTail : IsTail tail
  absolute : own.isAbsolute = true
  build_eq : ∃ path query fragment, build scheme authority path query fragment = .ok own

/-- An address that has a scheme is written with all its parts. -/
theorem exists_isWritten {url : Text} (h : read url = .ok own) (hs : own.scheme ≠ []) :
    ∃ scheme authority tail, IsWritten url own scheme authority tail := by
  rw [read] at h
  split at h
  · cases h
  rcases hscheme : splitScheme url with ⟨scheme, rest⟩
  rw [hscheme] at h
  dsimp only at h
  rcases hauthority : splitAuthority rest with ⟨authority, tail⟩
  rw [hauthority] at h
  dsimp only at h
  obtain ⟨e, hbuild, h⟩ := Steps.bind_eq_ok_iff.1 h
  split at h
  · next habsolute =>
    cases h
    have hne := scheme_ne_nil_of_build hbuild hs
    have hane : authority ≠ [] := by
      rintro rfl
      have hhost := (build_eq_ok hne hbuild).2.2.1
      rw [read_nil] at hhost
      rw [isAbsolute, ← Except.ok.inj hhost] at habsolute
      simp at habsolute
    obtain ⟨hurl, hsplit⟩ := splitScheme_eq hscheme hne
    obtain ⟨hrest, hends, htail⟩ := splitAuthority_eq hauthority hane
    exact ⟨scheme, authority, tail, hrest ▸ hurl, hne, hane, hsplit, hends, htail, habsolute,
      _, _, _, hbuild⟩
  · exact absurd (scheme_of_rebuild h) hs

/-- Another path, query or fragment behind the same start. -/
theorem IsWritten.read_tail {url tail tail' : Text} (hw : IsWritten url own scheme authority tail)
    (ht : IsTail tail')
    (h : read (scheme ++ ':' :: '/' :: '/' :: (authority ++ tail')) = .ok e) :
    ∃ path query fragment, build scheme authority path query fragment = .ok e := by
  rw [read] at h
  split at h
  · cases h
  rw [hw.splitScheme_eq] at h
  dsimp only at h
  rw [splitAuthority_append hw.ends ht] at h
  dsimp only at h
  obtain ⟨found, hbuild, h⟩ := Steps.bind_eq_ok_iff.1 h
  obtain ⟨path, query, fragment, hown⟩ := hw.build_eq
  obtain ⟨hscheme, -, hhost, -⟩ := build_origin hw.scheme_ne_nil hown hbuild
  have habsolute : found.isAbsolute = true := by
    have hown := hw.absolute
    rwa [isAbsolute, ← hscheme, ← hhost] at hown
  rw [if_pos habsolute] at h
  cases h
  exact ⟨_, _, _, hbuild⟩

theorem dropEndWhile_append {p : Char → Bool} {front tail : Text} {c : Char}
    (hc : p c = false) (hl : front.getLast? = some c) :
    Text.dropEndWhile p (front ++ tail) = front ++ Text.dropEndWhile p tail := by
  induction front with
  | nil => cases hl
  | cons d front ih =>
    rw [List.cons_append, Text.dropEndWhile]
    cases front with
    | nil =>
      have hd : d = c := Option.some.inj hl
      rw [List.nil_append, hd, hc]
      split
      · next hnil =>
        rw [hnil]
        rfl
      · rfl
    | cons f front =>
      rw [ih hl]
      rfl

/-- The address of a path leads where the address of the service leads. -/
theorem read_path {e : Endpoint} {path : Text} (h : read host = .ok own) (hs : own.scheme ≠ [])
    (hp : path.head? = some '/')
    (he : read (Text.dropEndWhile (· = '/') host ++ path) = .ok e) :
    ∃ scheme authority path query fragment path' query' fragment', scheme ≠ [] ∧
      build scheme authority path query fragment = .ok own ∧
      build scheme authority path' query' fragment' = .ok e := by
  obtain ⟨scheme, authority, tail, hw⟩ := exists_isWritten h hs
  obtain ⟨last, hlast⟩ : ∃ last, authority.getLast? = some last :=
    Option.ne_none_iff_exists'.1 fun hnone =>
      hw.authority_ne_nil (List.getLast?_eq_none_iff.1 hnone)
  have hslash : decide (last = '/') = false := by
    refine decide_eq_false fun hl => ?_
    have hend := hw.ends last (List.mem_of_getLast? hlast)
    rw [hl] at hend
    cases hend
  have hfront : (scheme ++ ':' :: '/' :: '/' :: authority).getLast? = some last := by
    rw [show scheme ++ ':' :: '/' :: '/' :: authority = (scheme ++ [':', '/', '/']) ++ authority by
      simp, List.getLast?_append, hlast]
    rfl
  have hkept : Text.dropEndWhile (· = '/') host ++ path = scheme ++ ':' :: '/' :: '/' ::
      (authority ++ (Text.dropEndWhile (· = '/') tail ++ path)) := by
    have hurl : host = scheme ++ ':' :: '/' :: '/' :: authority ++ tail := by
      rw [hw.url_eq]
      simp
    rw [hurl, dropEndWhile_append hslash hfront]
    simp
  -- the slashes that are left away belong to the path
  have htail : IsTail (Text.dropEndWhile (· = '/') tail ++ path) := by
    intro c hc
    rw [List.head?_append] at hc
    rcases hd : (Text.dropEndWhile (· = '/') tail).head? with _ | d
    · rw [hd, hp] at hc
      cases hc
      rfl
    · rw [hd] at hc
      cases hc
      have hprefix : Text.dropEndWhile (· = '/') tail <+: tail := by
        rw [Text.dropEndWhile_eq_rdropWhile]
        exact List.rdropWhile_prefix _ _
      obtain ⟨more, hmore⟩ := List.head?_eq_some_iff.1 hd
      obtain ⟨rest, hrest⟩ := hprefix
      apply hw.isTail c
      rw [← hrest, hmore]
      rfl
  rw [hkept] at he
  obtain ⟨path', query', fragment', hbuild⟩ := hw.read_tail htail he
  obtain ⟨path, query, fragment, hown⟩ := hw.build_eq
  exact ⟨scheme, authority, path, query, fragment, path', query', fragment', hw.scheme_ne_nil,
    hown, hbuild⟩

/-- What follows a host: nothing, or a port behind a colon. -/
def IsPortTail (t : Text) : Prop := t = [] ∨ ∃ port, t = ':' :: port

theorem drop_port {t : Text} (ht : IsPortTail t) :
    (if t.head? = some ':' then t.drop 1 else t) = t.drop 1 := by
  rcases ht with rfl | ⟨port, rfl⟩
  · rfl
  · rfl

theorem splitPort_append {t : Text} (h : ∀ c ∈ host, Host.isPlain c = true) (ht : IsPortTail t) :
    splitPort (host ++ t) = (host, t.drop 1) := by
  have hopen : ∀ rest, host ++ t = '[' :: rest → False := by
    intro rest he
    cases host with
    | nil =>
      rcases ht with rfl | ⟨port, rfl⟩
      · cases he
      · cases he
    | cons c host =>
      have hc := h c List.mem_cons_self
      rw [(List.cons.inj he).1] at hc
      exact absurd hc (by decide)
  have hcolon : ∀ c ∈ host, (c != ':') = true := by
    intro c hc
    refine bne_iff_ne.2 fun he => ?_
    have hp := h c hc
    rw [he] at hp
    exact absurd hp (by decide)
  have htake : (host ++ t).takeWhile (· != ':') = host := by
    rw [List.takeWhile_append_of_pos hcolon]
    rcases ht with rfl | ⟨port, rfl⟩
    · simp
    · simp
  have hdrop : (host ++ t).dropWhile (· != ':') = t := by
    rw [List.dropWhile_append_of_pos hcolon]
    rcases ht with rfl | ⟨port, rfl⟩
    · rfl
    · rfl
  have hsplit : splitPort (host ++ t) = ((host ++ t).takeWhile (· != ':'),
      if ((host ++ t).dropWhile (· != ':')).head? = some ':' then
        ((host ++ t).dropWhile (· != ':')).drop 1 else (host ++ t).dropWhile (· != ':')) := by
    simp [splitPort]
  rw [hsplit, htake, hdrop, drop_port ht]

theorem splitPort_bracketed {inner t : Text} (hc : ']' ∉ t) (ht : IsPortTail t) :
    splitPort ('[' :: inner ++ [']'] ++ t) = ('[' :: inner ++ [']'], t.drop 1) := by
  have hlast : Text.splitLast ']' (inner ++ [']'] ++ t) = (some inner, t) := by
    rw [List.append_assoc]
    exact Text.splitLast_append_cons hc inner
  rw [List.cons_append, List.cons_append, splitPort]
  dsimp only
  rw [hlast]
  dsimp only
  rw [drop_port ht]
  rfl

theorem splitPort_fst_subset (t : Text) : (splitPort t).1 ⊆ t := by
  rw [splitPort.eq_def]
  dsimp only
  split
  · next rest =>
    rcases hs : Text.splitLast ']' rest with ⟨found, behind⟩
    cases found with
    | some inner =>
      have he := (Text.splitLast_eq.1 inner behind hs).1
      intro c hc
      rcases List.mem_append.1 hc with hc | hc
      · rcases List.mem_cons.1 hc with rfl | hc
        · exact List.mem_cons_self
        · rw [he]
          exact List.mem_cons_of_mem _ (List.mem_append_left _ hc)
      · rw [List.mem_singleton.1 hc, he]
        exact List.mem_cons_of_mem _ (List.mem_append_right _ List.mem_cons_self)
    | none => exact (List.takeWhile_sublist _).subset
  · exact (List.takeWhile_sublist _).subset

/-- The port as an address writes it behind the host. -/
def portTail (port : Option Int) : Text := (port.map fun n => ':' :: Text.ofInt n).getD []

theorem isPortTail_portTail (port : Option Int) : IsPortTail (portTail port) := by
  cases port with
  | none => exact .inl rfl
  | some n => exact .inr ⟨Text.ofInt n, rfl⟩

theorem mem_portTail {port : Option Int} {c : Char} (h : c ∈ portTail port) :
    c = ':' ∨ c = '-' ∨ c.isDigit = true := by
  cases port with
  | none => exact absurd h List.not_mem_nil
  | some n =>
    rcases List.mem_cons.1 h with rfl | h
    · exact .inl rfl
    · cases n with
      | ofNat n => exact .inr (.inr (Text.isDigit_of_mem_ofNat h))
      | negSucc n =>
        rcases List.mem_cons.1 h with rfl | h
        · exact .inr (.inl rfl)
        · exact .inr (.inr (Text.isDigit_of_mem_ofNat h))

/-- A port that is read again is the same, or is left away as the usual one. -/
theorem readPort_portTail {port found : Option Int}
    (h : readPort scheme ((portTail port).drop 1) = .ok found) :
    (found <|> usualPorts.lookup scheme) = (port <|> usualPorts.lookup scheme) := by
  cases port with
  | none =>
    cases h
    rfl
  | some n =>
    have hdrop : (portTail (some n)).drop 1 = Text.ofInt n := rfl
    have hne : (Text.ofInt n).isEmpty = false := by
      cases n with
      | ofNat n => exact List.isEmpty_eq_false_iff.2 Nat.toDigits_ne_nil
      | negSucc n => rfl
    rw [hdrop, readPort, hne, if_neg Bool.false_ne_true] at h
    cases hi : Text.integer? (Text.ofInt n) with
    | none =>
      rw [hi] at h
      cases h
    | some m =>
      rw [hi, Text.integer?_ofInt hi] at h
      dsimp only at h
      split at h
      · next hl =>
        cases h
        exact hl
      · cases h
        rfl

theorem place_eq (e : Endpoint) :
    e.place = (if e.host.contains ':' then '[' :: e.host ++ [']'] else e.host) ++ portTail e.port :=
  rfl

/-- An address without user is read again as an address that leads to the same place. -/
theorem splitPort_place (e : Endpoint) {text : Text} (hr : Host.read text = .ok e.host)
    (hat : '@' ∉ text) :
    '@' ∉ e.place ∧ ∃ host, splitPort e.place = (host, (portTail e.port).drop 1) ∧
      ∀ found, Host.read host = .ok found → Text.lowerAscii found = Text.lowerAscii e.host := by
  have htail : ∀ {c : Char}, c ≠ ':' → c ≠ '-' → c.isDigit = false → c ∉ portTail e.port := by
    intro c hcolon hminus hdigit hc
    rcases mem_portTail hc with h | h | h
    · exact hcolon h
    · exact hminus h
    · rw [hdigit] at h
      cases h
  have hno := htail (c := '@') (by decide) (by decide) (by decide)
  rcases Host.isPlain_of_read hr with hp | ⟨hz, rfl⟩
  · have hcolon : e.host.contains ':' = false := by
      rw [Bool.eq_false_iff]
      intro hc
      exact absurd (hp _ (List.contains_iff_mem.1 hc)) (by decide)
    rw [place_eq, hcolon, if_neg Bool.false_ne_true]
    refine ⟨fun hc => ?_, e.host, splitPort_append hp (isPortTail_portTail _), fun found hf => ?_⟩
    · rcases List.mem_append.1 hc with hc | hc
      · exact absurd (hp _ hc) (by decide)
      · exact hno hc
    · rcases Host.lowerAscii_of_read hp hf with h | h
      · rw [h, Text.lowerAscii_lowerAscii]
      · rw [h]
  · have hcolon : e.host.contains ':' = true :=
      List.contains_iff_mem.2 (Host.mem_of_isZonedGroups hz)
    rw [place_eq, if_pos hcolon]
    refine ⟨fun hc => ?_, _, splitPort_bracketed (htail (by decide) (by decide) (by decide))
      (isPortTail_portTail _), fun found hf => ?_⟩
    · rcases List.mem_append.1 hc with hc | hc
      · exact hat hc
      · exact hno hc
    · rw [Host.read_bracketed hz] at hf
      rw [Except.ok.inj hf]

/-- Another query leaves alone where an address leads to. -/
theorem withQuery_origin {after : Endpoint} {text q : Text} (hs : e.scheme ≠ [])
    (hlow : Text.lowerAscii e.scheme = e.scheme) (hu : e.userInfo = [])
    (hr : Host.read text = .ok e.host) (hat : '@' ∉ text) (h : e.withQuery q = .ok after) :
    after.origin = e.origin ∧ after.userInfo = [] := by
  obtain ⟨hno, host, hsplit, hsame⟩ := splitPort_place e hr hat
  have hauthority : e.authority = e.place := by rw [authority, hu]; rfl
  have hplace : Text.splitLast '@' e.authority = (none, e.place) := by
    rw [hauthority]
    exact Text.splitLast_of_not_mem hno
  rw [withQuery, rebuild] at h
  split at h
  · cases h
  obtain ⟨hscheme, huser, hhost, hport⟩ := build_eq_ok hs h
  rw [hplace] at huser
  rw [placeOf, hplace, hsplit] at hhost hport
  rw [hlow] at hscheme
  refine ⟨?_, huser⟩
  rw [origin, origin, hscheme, hsame _ hhost, readPort_portTail hport]

end Endpoint

end QueryFence
