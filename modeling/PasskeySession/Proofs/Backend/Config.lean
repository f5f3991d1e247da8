import PasskeySession.Backend.Config
import PasskeySession.Proofs.Text.Digits
import PasskeySession.Proofs.Text.Trimmed

/-! # Settings from the environment

Which environments are accepted, which variable is the fault of any other, and what the settings are. The address
is looked at before its slashes at the end are dropped: one with nothing but slashes behind its scheme is accepted,
and loses the slashes of the scheme with them. -/

namespace PasskeySession.ClientConfig
variable {lookup : String → Option String} {key url : String} {default n : Nat} {c : ClientConfig} {f : ConfigFault}

/-! ### Addresses -/

def schemes : List String := ["http:", "https:"]

/-- An address of the web: a scheme and two slashes before anything else. -/
def Http (url : String) : Prop := ∃ scheme ∈ schemes, (scheme ++ "//").toList <+: url.toList

/-- An address that has nothing but slashes behind its scheme. -/
def Bare (url : String) : Prop :=
  ∃ scheme ∈ schemes, ∃ k, url.toList = (scheme ++ "//").toList ++ List.replicate k '/'

theorem isHttp_iff : isHttp url = true ↔ Http url := by
  simp [isHttp, Http, schemes, List.isPrefixOf_iff_prefix]

theorem toList_backendUrl (url : String) :
    (ofUrl url).backendUrl.toList = Text.dropEndWhile (· == '/') url.toList := String.toList_ofList

theorem backendUrl_eq {stem : List Char} {k : Nat} (h : url.toList = stem ++ List.replicate k '/')
    (hlast : stem.getLast? ≠ some '/') : (ofUrl url).backendUrl.toList = stem := by
  rw [toList_backendUrl, Text.dropEndWhile_eq h hlast]

theorem getLast?_scheme : ∀ scheme ∈ schemes, scheme.toList.getLast? ≠ some '/' := by decide

theorem not_http_scheme {scheme : String} (h : scheme ∈ schemes) : ¬ Http scheme := by
  have hlone : ∀ scheme ∈ schemes, isHttp scheme = false := by decide
  rw [← isHttp_iff, hlone scheme h]
  simp

/-- A bare address keeps its scheme alone. -/
theorem backendUrl_of_bare (h : Bare url) : (ofUrl url).backendUrl ∈ schemes := by
  obtain ⟨scheme, hscheme, k, hurl⟩ := h
  -- The two slashes of the scheme are dropped with those behind it.
  have hslashes : url.toList = scheme.toList ++ List.replicate (k + 2) '/' := by
    rw [hurl, String.toList_append, List.append_assoc]
    rfl
  have heq := backendUrl_eq hslashes (getLast?_scheme scheme hscheme)
  rwa [String.toList_inj.mp heq]

/-- What stands behind a scheme keeps its slashes. -/
theorem http_backendUrl (h : Http url) (hbare : ¬ Bare url) : Http (ofUrl url).backendUrl := by
  obtain ⟨scheme, hscheme, rest, hurl⟩ := h
  obtain ⟨k, hrest⟩ := Text.exists_replicate '/' rest
  generalize hstem : Text.dropEndWhile (· == '/') rest = stem at hrest
  have hne : stem ≠ [] := by
    rintro rfl
    exact hbare ⟨scheme, hscheme, k, by rw [← hurl, hrest, List.nil_append]⟩
  have hlast : stem.getLast? ≠ some '/' := hstem ▸ Text.getLast?_dropEndWhile_ne '/' rest
  have hend : ((scheme ++ "//").toList ++ stem).getLast? ≠ some '/' := by
    rwa [List.getLast?_append, List.getLast?_eq_some_getLast hne, Option.some_or, ← List.getLast?_eq_some_getLast hne]
  have hsplit : url.toList = ((scheme ++ "//").toList ++ stem) ++ List.replicate k '/' := by
    rw [← hurl, hrest, List.append_assoc]
  exact ⟨scheme, hscheme, stem, (backendUrl_eq hsplit hend).symm⟩

theorem http_backendUrl_iff (h : Http url) : Http (ofUrl url).backendUrl ↔ ¬ Bare url :=
  ⟨fun hhttp hbare => not_http_scheme (backendUrl_of_bare hbare) hhttp, http_backendUrl h⟩

/-! ### Variables -/

/-- What is wrong with the address. -/
inductive WrongUrl (lookup : String → Option String) : ConfigFault → Prop
  | unset : lookup urlVariable = none → WrongUrl lookup (.notSet urlVariable)
  | blank {url : String} : lookup urlVariable = some url → (∀ c ∈ url.toList, Text.isBlank c = true) →
    WrongUrl lookup (.notSet urlVariable)
  | notHttp {url : String} : lookup urlVariable = some url → (∃ c ∈ url.toList, Text.isBlank c = false) →
    ¬ Http url → WrongUrl lookup (.notHttp urlVariable url)

/-- What is wrong with a time: it is set, but to no number of 64 bits. -/
inductive WrongTime (lookup : String → Option String) (key : String) : ConfigFault → Prop
  | notMilliseconds {raw : String} : lookup key = some raw →
    (∀ n, Text.Counts (Text.trim raw.toList) n → Text.wordLimit ≤ n) → WrongTime lookup key (.notMilliseconds key raw)

/-- The first variable that is wrong, and its fault. -/
inductive FirstWrong (lookup : String → Option String) : String → ConfigFault → Prop
  | url {f : ConfigFault} : WrongUrl lookup f → FirstWrong lookup urlVariable f
  | request {f : ConfigFault} : (∀ g, ¬ WrongUrl lookup g) → WrongTime lookup requestTimeoutVariable f →
    FirstWrong lookup requestTimeoutVariable f
  | connect {f : ConfigFault} : (∀ g, ¬ WrongUrl lookup g) → (∀ g, ¬ WrongTime lookup requestTimeoutVariable g) →
    WrongTime lookup connectTimeoutVariable f → FirstWrong lookup connectTimeoutVariable f

/-- The address is set, and it is one of the web. -/
structure HasUrl (lookup : String → Option String) (url : String) : Prop where
  set : lookup urlVariable = some url
  visible : ∃ c ∈ url.toList, Text.isBlank c = false
  http : Http url

/-- The time that a variable sets, if it is set: a number of 64 bits with white space around it. -/
def HasTime (lookup : String → Option String) (key : String) (default n : Nat) : Prop :=
  lookup key = none ∧ n = default ∨
    ∃ raw, lookup key = some raw ∧ Text.Counts (Text.trim raw.toList) n ∧ n < Text.wordLimit

theorem not_blank_iff {cs : List Char} : Text.blank cs = false ↔ ∃ c ∈ cs, Text.isBlank c = false := by
  rw [← Bool.not_eq_true, Text.blank_iff]
  simp

theorem urlOf_cases (lookup : String → Option String) :
    (∃ url, urlOf lookup = .ok url ∧ HasUrl lookup url) ∨ ∃ f, urlOf lookup = .error f ∧ WrongUrl lookup f := by
  unfold urlOf
  cases hset : lookup urlVariable with
  | none => exact Or.inr ⟨_, rfl, .unset hset⟩
  | some url =>
    dsimp only
    cases hblank : Text.blank url.toList with
    | true => exact Or.inr ⟨_, rfl, .blank hset (Text.blank_iff.mp hblank)⟩
    | false =>
      have hvisible := not_blank_iff.mp hblank
      cases hhttp : isHttp url with
      | true => exact Or.inl ⟨url, rfl, hset, hvisible, isHttp_iff.mp hhttp⟩
      | false => exact Or.inr ⟨_, rfl, .notHttp hset hvisible fun h => by rw [isHttp_iff.mpr h] at hhttp; cases hhttp⟩

theorem HasUrl.urlOf_eq (h : HasUrl lookup url) : urlOf lookup = .ok url := by
  unfold urlOf
  rw [h.set]
  dsimp only
  rw [not_blank_iff.mpr h.visible, isHttp_iff.mpr h.http]
  rfl

/-- The address has one fault at most. -/
theorem WrongUrl.urlOf_eq (h : WrongUrl lookup f) : urlOf lookup = .error f := by
  unfold urlOf
  rcases h with hnone | ⟨hurl, hblank⟩ | ⟨hurl, hvisible, hnot⟩
  · rw [hnone]
  · rw [hurl]
    exact if_pos (Text.blank_iff.mpr hblank)
  · rw [hurl]
    dsimp only
    rw [not_blank_iff.mpr hvisible, Bool.eq_false_iff.mpr fun h => hnot (isHttp_iff.mp h)]
    rfl

theorem HasUrl.not_wrong (h : HasUrl lookup url) (f : ConfigFault) : ¬ WrongUrl lookup f := by
  intro hwrong
  have hread := hwrong.urlOf_eq
  rw [h.urlOf_eq] at hread
  cases hread

theorem exists_urlOf (h : ∀ f, ¬ WrongUrl lookup f) : ∃ url, urlOf lookup = .ok url := by
  rcases urlOf_cases lookup with ⟨url, hread, -⟩ | ⟨f, -, hwrong⟩
  · exact ⟨url, hread⟩
  · exact absurd hwrong (h f)

theorem milliseconds_cases (lookup : String → Option String) (key : String) (default : Nat) :
    (∃ n, milliseconds lookup key default = .ok n ∧ HasTime lookup key default n) ∨
      ∃ f, milliseconds lookup key default = .error f ∧ WrongTime lookup key f := by
  have hpos : 0 < Text.wordLimit := by decide
  unfold milliseconds
  cases hset : lookup key with
  | none => exact Or.inl ⟨default, rfl, Or.inl ⟨hset, rfl⟩⟩
  | some raw =>
    dsimp only
    cases hread : Text.naturalBelow Text.wordLimit (Text.trim raw.toList) with
    | ok n =>
      obtain ⟨hcounts, hlt⟩ := (Text.naturalBelow_eq_ok_iff hpos).mp hread
      exact Or.inl ⟨n, rfl, Or.inr ⟨raw, hset, hcounts, hlt⟩⟩
    | error e =>
      refine Or.inr ⟨_, rfl, .notMilliseconds hset fun n hcounts => Nat.le_of_not_lt fun hlt => ?_⟩
      rw [(Text.naturalBelow_eq_ok_iff hpos).mpr ⟨hcounts, hlt⟩] at hread
      cases hread

theorem HasTime.not_wrong (h : HasTime lookup key default n) (f : ConfigFault) : ¬ WrongTime lookup key f := by
  rintro ⟨hset, hlarge⟩
  rcases h with ⟨hnone, -⟩ | ⟨raw, hraw, hcounts, hlt⟩
  · rw [hnone] at hset
    cases hset
  · rw [hraw] at hset
    cases hset
    exact absurd hlt (Nat.not_lt.mpr (hlarge n hcounts))

theorem WrongTime.milliseconds_eq (h : WrongTime lookup key f) (default : Nat) :
    milliseconds lookup key default = .error f := by
  rcases milliseconds_cases lookup key default with ⟨n, -, htime⟩ | ⟨g, hread, hwrong⟩
  · exact absurd h (htime.not_wrong f)
  · obtain ⟨hset, -⟩ := h
    obtain ⟨hset', -⟩ := hwrong
    rw [hset] at hset'
    cases hset'
    exact hread

/-! ### Environments -/

/-- The address is one of the web, and each time that is set is a number of 64 bits. -/
structure Accepted (lookup : String → Option String) : Prop where
  url : ∃ url, HasUrl lookup url
  times : ∀ key ∈ [requestTimeoutVariable, connectTimeoutVariable], ∀ raw, lookup key = some raw →
    ∃ n, Text.Counts (Text.trim raw.toList) n ∧ n < Text.wordLimit

/-- The settings that an accepted environment gives. -/
structure Gives (lookup : String → Option String) (url : String) (c : ClientConfig) : Prop where
  set : lookup urlVariable = some url
  request : HasTime lookup requestTimeoutVariable defaultRequestTimeout c.requestTimeoutMs
  connect : HasTime lookup connectTimeoutVariable defaultConnectTimeout c.connectTimeoutMs
  trimmed : c.backendUrl.toList.getLast? ≠ some '/'
  /-- A path is put behind the address, whose slashes at the end are dropped. -/
  endpoint : ∃ k, url.toList = c.backendUrl.toList ++ List.replicate k '/' ∧
    ∀ path, c.endpoint path = c.backendUrl ++ path
  /-- The address is still one of the web, unless it has nothing but slashes behind its scheme. -/
  http_iff : Http c.backendUrl ↔ ¬ Bare url
  /-- Of such an address the scheme alone is left. -/
  bare : Bare url → c.backendUrl ∈ schemes

theorem exists_hasTime_iff : (∃ n, HasTime lookup key default n) ↔ ∀ raw, lookup key = some raw →
    ∃ n, Text.Counts (Text.trim raw.toList) n ∧ n < Text.wordLimit := by
  unfold HasTime
  cases lookup key <;> simp

theorem gives_of {request connect : Nat} (hurl : HasUrl lookup url)
    (hrequest : HasTime lookup requestTimeoutVariable defaultRequestTimeout request)
    (hconnect : HasTime lookup connectTimeoutVariable defaultConnectTimeout connect) :
    Gives lookup url { ofUrl url with requestTimeoutMs := request, connectTimeoutMs := connect } where
  set := hurl.set
  request := hrequest
  connect := hconnect
  trimmed := by
    rw [toList_backendUrl]
    exact Text.getLast?_dropEndWhile_ne '/' url.toList
  endpoint := by
    obtain ⟨k, hk⟩ := Text.exists_replicate '/' url.toList
    exact ⟨k, by rw [toList_backendUrl, ← hk], fun _ => rfl⟩
  http_iff := http_backendUrl_iff hurl.http
  bare := backendUrl_of_bare

/-- An environment is accepted, or the first variable that is wrong is the fault. -/
theorem ofLookup_cases (lookup : String → Option String) :
    (∃ c url, ofLookup lookup = .ok c ∧ Accepted lookup ∧ Gives lookup url c) ∨
      ∃ key f, ofLookup lookup = .error f ∧ FirstWrong lookup key f := by
  unfold ofLookup
  rcases urlOf_cases lookup with ⟨url, hread, hurl⟩ | ⟨f, hread, hwrong⟩
  case inr => exact Or.inr ⟨_, f, by rw [hread]; rfl, .url hwrong⟩
  rw [hread]
  rcases milliseconds_cases lookup requestTimeoutVariable defaultRequestTimeout with
    ⟨request, hread, hrequest⟩ | ⟨f, hread, hwrong⟩
  case inr => exact Or.inr ⟨_, f, by rw [hread]; rfl, .request hurl.not_wrong hwrong⟩
  rw [hread]
  rcases milliseconds_cases lookup connectTimeoutVariable defaultConnectTimeout with
    ⟨connect, hread, hconnect⟩ | ⟨f, hread, hwrong⟩
  case inr => exact Or.inr ⟨_, f, by rw [hread]; rfl, .connect hurl.not_wrong hrequest.not_wrong hwrong⟩
  rw [hread]
  refine Or.inl ⟨_, url, rfl, ⟨⟨url, hurl⟩, ?_⟩, gives_of hurl hrequest hconnect⟩
  exact List.forall_mem_cons.mpr ⟨exists_hasTime_iff.mp ⟨request, hrequest⟩,
    List.forall_mem_singleton.mpr (exists_hasTime_iff.mp ⟨connect, hconnect⟩)⟩

theorem Accepted.not_wrong (h : Accepted lookup) : ¬ FirstWrong lookup key f := by
  obtain ⟨⟨url, hurl⟩, htimes⟩ := h
  obtain ⟨hrequest, hconnect⟩ := List.forall_mem_cons.mp htimes
  obtain ⟨_, hrequest⟩ : ∃ n, HasTime lookup requestTimeoutVariable defaultRequestTimeout n :=
    exists_hasTime_iff.mpr hrequest
  obtain ⟨_, hconnect⟩ : ∃ n, HasTime lookup connectTimeoutVariable defaultConnectTimeout n :=
    exists_hasTime_iff.mpr (List.forall_mem_singleton.mp hconnect)
  rintro (hwrong | ⟨-, hwrong⟩ | ⟨-, -, hwrong⟩)
  · exact hurl.not_wrong f hwrong
  · exact hrequest.not_wrong f hwrong
  · exact hconnect.not_wrong f hwrong

theorem FirstWrong.ofLookup_eq (h : FirstWrong lookup key f) : ofLookup lookup = .error f := by
  unfold ofLookup
  cases h with
  | url hwrong =>
    rw [hwrong.urlOf_eq]
    rfl
  | request hurl hwrong =>
    obtain ⟨url, hread⟩ := exists_urlOf hurl
    rw [hread, hwrong.milliseconds_eq]
    rfl
  | connect hurl hrequest hwrong =>
    obtain ⟨url, hread⟩ := exists_urlOf hurl
    rcases milliseconds_cases lookup requestTimeoutVariable defaultRequestTimeout with ⟨n, htime, -⟩ | ⟨g, -, hg⟩
    case inr => exact absurd hg (hrequest g)
    rw [hread, htime, hwrong.milliseconds_eq]
    rfl

theorem exists_message (rest : String) (h : f.message = key ++ rest) :
    ∃ rest, (ClientError.config f).message = "Configuration error: " ++ key ++ rest :=
  ⟨rest, (congrArg ("Configuration error: " ++ ·) h).trans String.append_assoc.symm⟩

theorem FirstWrong.named (h : FirstWrong lookup key f) :
    ∃ rest, (ClientError.config f).message = "Configuration error: " ++ key ++ rest := by
  have htime : ∀ key raw, ∃ rest, (ClientError.config (.notMilliseconds key raw)).message =
      "Configuration error: " ++ key ++ rest :=
    fun key raw => exists_message (" must be milliseconds, got " ++ Text.quoted raw) String.append_assoc
  cases h with
  | url hwrong =>
    cases hwrong with
    | unset => exact exists_message " is not set" rfl
    | blank => exact exists_message " is not set" rfl
    | @notHttp url =>
      exact exists_message (" must be an http(s) URL, got " ++ Text.quoted url) String.append_assoc
  | request _ hwrong =>
    cases hwrong
    exact htime _ _
  | connect _ _ hwrong =>
    cases hwrong
    exact htime _ _

/-- Which environments are accepted, what is the fault of any other, and what an accepted one gives. -/
structure Governs (lookup : String → Option String) : Prop where
  accepted_iff : (∃ c, ofLookup lookup = .ok c) ↔ Accepted lookup
  refused_iff : ∀ f, ofLookup lookup = .error f ↔ ∃ key, FirstWrong lookup key f
  /-- The variable is named by the message. -/
  named : ∀ key f, FirstWrong lookup key f →
    ∃ rest, (ClientError.config f).message = "Configuration error: " ++ key ++ rest
  gives : ∀ c, ofLookup lookup = .ok c → ∃ url, Gives lookup url c

theorem governs (lookup : String → Option String) : Governs lookup where
  accepted_iff := by
    rcases ofLookup_cases lookup with ⟨c, url, hread, haccepted, -⟩ | ⟨key, f, hread, hwrong⟩
    · exact iff_of_true ⟨c, hread⟩ haccepted
    · refine iff_of_false ?_ fun haccepted => haccepted.not_wrong hwrong
      rintro ⟨c, hc⟩
      rw [hread] at hc
      cases hc
  refused_iff f := by
    constructor
    · intro h
      rcases ofLookup_cases lookup with ⟨c, url, hread, -⟩ | ⟨key, g, hread, hwrong⟩
      · rw [hread] at h
        cases h
      · rw [hread] at h
        cases h
        exact ⟨key, hwrong⟩
    · rintro ⟨key, hwrong⟩
      exact hwrong.ofLookup_eq
  named _ _ h := h.named
  gives c h := by
    rcases ofLookup_cases lookup with ⟨c', url, hread, -, hgives⟩ | ⟨key, g, hread, -⟩
    · rw [hread] at h
      cases h
      exact ⟨url, hgives⟩
    · rw [hread] at h
      cases h

/-- An address that names no host is accepted, and what is left of it is no address of the web. -/
theorem not_http_bare : ofLookup (fun key => if key = urlVariable then some "http://" else none) =
    .ok ⟨"http:", 30000, 10000⟩ ∧ ¬ Http "http:" :=
  ⟨rfl, not_http_scheme (by decide)⟩

example : ofLookup (fun key => if key = urlVariable then some "https://api.example//" else none) =
    .ok ⟨"https://api.example", 30000, 10000⟩ := rfl

end PasskeySession.ClientConfig
