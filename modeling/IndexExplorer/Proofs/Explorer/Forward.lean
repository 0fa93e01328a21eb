import IndexExplorer.Proofs.Answer.Passes
import IndexExplorer.Proofs.Explorer.Secret
import IndexExplorer.Proofs.Gateway.Told
import IndexExplorer.Proofs.Service.Agreement
import IndexExplorer.Proofs.Signature.Placed

/-!
Where a forwarded request goes.

A URL is taken apart into the node of a connection and the path of a call, which are put together
again and read as the URL of the request. With credentials its text is taken apart once more.

* `absolute_of_forwardParts`, `toList_forwardText`: the text that is put together is that of the
  pieces of the given one;
* `nodes_of_forwardConnection`, `normalize_origin`: the connection has the origin for its one node;
* `request_of_read`: the request to a node is made when its URL was read from sound pieces;
* **`forward_reads_given`**: one request is sent, to the URL that is read from the given text.
-/
namespace IndexExplorer

open Text

namespace Gateway

variable {env : Environment} {c : Connection} {call : Call} {node : String} {made : Request}

/-- A single node is asked once, whatever comes of it. -/
theorem run_execute_single (nodes : Node.normalize c.nodes = [node])
    (attempt : request env c call node = .ok made) (s : Script) :
    ((execute env c call).run s).1 = [made.outgoing] := by
  rw [execute_eq_ask env c call (by simp [nodes]), nodes]
  cases silent : ((s.outcome 0).seen made.url).silence? with
  | none => rw [run_ask_of_answer attempt silent]
  | some f =>
    rw [run_ask_of_silence attempt silent]
    rfl

/-- A request with the fields of its content alone has no date. -/
theorem undated_withImplied {r : Request} {content : Content} {fields : Headers}
    (given : Headers.ofGiven (Request.declaredFields content []) = .ok fields)
    (headers : r.headers = Request.withImplied r.method r.url r.body fields) :
    Signature.Undated r := by
  have named : ∀ n ∈ Headers.names r.headers,
      n = "content-type" ∨ n = "host" ∨ n = "content-length" := by
    intro n mem
    rw [headers] at mem
    exact (Request.mem_names_withImplied mem).imp_left (Request.names_of_declaredFields given n)
  constructor
  · intro mem
    exact absurd (named _ mem) (by decide)
  · intro mem
    exact absurd (named _ mem) (by decide)

/-- The request to a node can be made when its URL was read from sound pieces, with credentials if
the URL is placed. -/
theorem request_of_read (method : String) {content : Content} {path : String} {p : Url.Spelling}
    {u : Url} {key : Option CredentialSet} (read : Url.read (urlOf node { path }) = .ok u)
    (absolute : p.Absolute) (whole : p.text = (urlOf node { path }).toList)
    (sound : UrlParts.authorityFault p.authority = none)
    (resolved : (KeySource.ofConnection c).resolve env.files = .ok key) (fits : content.fits)
    (placed : key = none ∨ Signature.IsPlaced u) :
    ∃ made, request env c { path, method := .str method, content } node = .ok made ∧
      made.url = u ∧ made.method = Text.upper method := by
  obtain ⟨fields, given⟩ := Request.ofGiven_declaredFields content
  obtain ⟨fine, spells⟩ := Url.read_eq_ok_iff.mp read
  rw [← whole] at fine spells
  rw [Url.spelling_text absolute] at spells
  let built : Request := {
    method := Text.upper method
    url := u
    headers := Request.withImplied (Text.upper method) u content.toBytes fields
    body := content.toBytes
    timeout := some (Request.timeoutOf (.ofOption .float c.timeout)) }
  have build : Request.build (.str method) (.str (urlOf node { path })) content .null
      (.ofOption .float c.timeout) = .ok built :=
    Request.build_eq_ok_iff.mpr ⟨method, [], rfl, rfl, fits,
      Request.make_eq_ok_iff.mpr ⟨u, fields, read, given, rfl⟩⟩
  cases key with
  | none => exact ⟨built, request_eq_ok_iff.mpr ⟨none, built, resolved, build, rfl⟩, rfl, rfl⟩
  | some k =>
    have undated : Signature.Undated built := undated_withImplied given rfl
    obtain ⟨service, told⟩ : ∃ service, Service.ofUrl (urlOf node { path }) = .ok service := by
      rw [Service.ofUrl_of_absolute whole.symm, UrlParts.split_text absolute
        (Url.not_isControl_of_textFault fine) whole.symm, sound]
      exact ⟨_, rfl⟩
    obtain ⟨made, signed, url⟩ := Request.exists_sign
      (d := env.digest) (k := ⟨k, signingRegion c k, service, env.time⟩) undated absolute
      (Url.not_isControl_of_textFault fine) sound spells
      (fun host => Request.host_mem_withImplied host _ _ _)
      (placed.resolve_left (Option.some_ne_none k))
    refine ⟨made, request_eq_ok_iff.mpr ⟨some k, built, resolved, build, service, told, signed⟩, url,
      ?_⟩
    rw [Signature.eq_of_sign signed]

/-- The request for content that is too deep to be written cannot be made. -/
theorem request_of_not_fits {key : Option CredentialSet}
    (resolved : (KeySource.ofConnection c).resolve env.files = .ok key)
    (bare : call.fields = .null) (deep : ¬ call.content.fits) :
    request env c call node = .error .tooDeep := by
  have none : Headers.fieldsOf call.fields = .ok [] := by rw [bare]; rfl
  simp only [request, resolved, bind, Except.bind, Request.build_of_not_fits none deep]

end Gateway

namespace Explorer

variable {text : String} {parts : UrlParts} {c : Connection} {source : KeySource}

/-- The origin of a URL. -/
def origin (parts : UrlParts) : String := parts.scheme ++ "://" ++ parts.authority

/-- The text that the URL of a forwarded request is read from. -/
def forwardText (parts : UrlParts) : String :=
  Gateway.urlOf (origin parts) { path := forwardPath parts }

/-! ## The pieces of the text -/

theorem forwardParts_eq_ok_iff : forwardParts (.str text) = .ok parts ↔
    UrlParts.split text = .ok parts ∧ parts.scheme ≠ "" ∧ parts.authority ≠ "" := by
  cases apart : UrlParts.split text with
  | error e => simp [forwardParts, apart, bind, Except.bind]
  | ok found =>
    simp only [forwardParts, apart, bind, Except.bind]
    split
    · rename_i relative
      refine iff_of_false nofun ?_
      rintro ⟨same, scheme, authority⟩
      obtain rfl := Except.ok.inj same
      simp [scheme, authority] at relative
    · rename_i whole
      constructor
      · intro same
        obtain rfl := Except.ok.inj same
        simpa using whole
      · rintro ⟨same, -⟩
        exact same

/-- The text that is put together is made up of the pieces of the given text. -/
theorem toList_forwardText {p : Url.Spelling} (absolute : p.Absolute)
    (pieces : parts = ⟨String.ofList (p.scheme.map Char.toLower), String.ofList p.authority,
      String.ofList p.path, String.ofList (p.query.getD []), String.ofList (p.fragment.getD [])⟩) :
    (forwardText parts).toList = p.rejoined.text := by
  have path : (forwardPath parts).toList =
      p.rejoined.path ++ Url.marked '?' p.rejoined.query := by
    rw [pieces]
    simp only [forwardPath, Url.isEmpty_ofList, Url.Spelling.rejoined, String.toList_append]
    congr 1
    · cases empty : p.path.isEmpty <;> simp
    · cases query : p.query with
      | none => rfl
      | some q => cases q <;> simp [Url.marked, Option.filter]
  have slash : (forwardPath parts).startsWith "/" = true := by
    rw [String.startsWith_string_iff, path]
    have rooted := absolute.rejoined.rooted
    cases first : p.rejoined.path with
    | nil =>
      simp only [Url.Spelling.rejoined] at first
      split at first
      · cases first
      · rename_i some
        exact absurd (List.isEmpty_iff.mpr first) some
    | cons d rest =>
      rw [first] at rooted
      obtain rfl : d = '/' := by simpa using rooted d rfl
      simp
  simp only [forwardText, origin, Gateway.urlOf, Node.rooted, slash, ↓reduceIte,
    String.toList_append, path, Url.Spelling.text, Url.Spelling.tail]
  simp [pieces, Url.Spelling.rejoined, Url.marked]

/-- The pieces of an accepted text without blanks, and the text that is put together from them. -/
theorem absolute_of_forwardParts (visible : ∀ c ∈ text.toList, Url.isVisible c)
    (accepted : forwardParts (.str text) = .ok parts) :
    let p := Url.spelling text.toList
    p.Absolute ∧ UrlParts.authorityFault p.authority = none ∧
      parts.authority = String.ofList p.authority ∧
      (forwardText parts).toList = p.rejoined.text ∧
      ∀ c ∈ (forwardText parts).toList, Url.isVisible c := by
  intro p
  obtain ⟨apart, scheme, authority⟩ := forwardParts_eq_ok_iff.mp accepted
  obtain ⟨absolute, whole, sound, pieces⟩ := Url.absolute_of_split visible apart scheme authority
  have spelled := toList_forwardText absolute pieces
  refine ⟨absolute, sound, by rw [pieces], spelled, ?_⟩
  rw [spelled]
  exact Url.visible_rejoined absolute (by rwa [whole])

/-! ## The connection -/

theorem nodes_of_forwardConnection (h : forwardConnection parts source = .ok c) :
    c.nodes = [origin parts] := by
  have passed : Connection.rule (.obj (forwardFields parts source)) = .passed c := by
    simp only [forwardConnection] at h
    change (Connection.rule (.obj (forwardFields parts source))).result = .ok c at h
    cases checked : Connection.rule (.obj (forwardFields parts source)) with
    | passed d =>
      rw [checked] at h
      rw [Except.ok.inj h]
    | failed faults =>
      rw [checked] at h
      cases h
  simp only [Connection.rule, Rule.record, Checked.seq_eq_passed_iff, Checked.map_eq_passed_iff]
    at passed
  obtain ⟨_, _, ⟨_, _, ⟨_, _, ⟨_, _, ⟨_, _, ⟨_, _, ⟨_, _, ⟨_, _, ⟨_, _, ⟨_, _, ⟨_, _,
    ⟨nodes, given, rfl⟩, -, rfl⟩, -, rfl⟩, -, rfl⟩, -, rfl⟩, -, rfl⟩, -, rfl⟩, -, rfl⟩, -, rfl⟩,
    -, rfl⟩, -, rfl⟩, -, rfl⟩ := passed
  exact (Checked.passed.inj given).symm

/-- An origin is no blank, and has no slash at its end. -/
theorem normalize_origin {p : Url.Spelling} (visible : ∀ c ∈ (origin parts).toList, Url.isVisible c)
    (absolute : p.Absolute) (authority : parts.authority = String.ofList p.authority)
    (some : parts.authority ≠ "") : Node.normalize [origin parts] = [origin parts] := by
  have blankless : ∀ c ∈ (origin parts).toList, isBlank c = false := fun c mem =>
    Url.isBlank_of_isVisible (visible c mem)
  obtain ⟨last, ends⟩ : ∃ last, p.authority.getLast? = Option.some last := by
    cases back : p.authority.getLast? with
    | some last => exact ⟨last, rfl⟩
    | none =>
      rw [authority, List.getLast?_eq_none_iff.mp back] at some
      exact absurd rfl some
  have slashless : decide (last = '/') = false := by
    have other := absolute.authority last (List.mem_of_getLast? ends)
    simp only [Url.endsAuthority, Bool.or_eq_false_iff] at other
    exact other.1.1
  have whole : (origin parts).toList = (parts.scheme ++ "://").toList ++ p.authority := by
    simp [origin, authority]
  have trimmed : Node.trim (origin parts) = origin parts := by
    rw [Node.trim, (trimWhile_of_forall blankless).2, whole,
      dropEndWhile_append_of_not ends slashless, ← whole, String.ofList_toList]
  have full : Text.blank (origin parts) = false := by
    refine List.all_eq_false.mpr ⟨':', by simp [origin], by decide⟩
  simp [Node.normalize, full, trimmed]

/-! ## What is sent -/

variable {env : Environment} {method : String} {content : Content} {key : Option CredentialSet}

theorem normalize_forwardConnection (visible : ∀ c ∈ text.toList, Url.isVisible c)
    (accepted : forwardParts (.str text) = .ok parts)
    (connected : forwardConnection parts source = .ok c) :
    Node.normalize c.nodes = [origin parts] := by
  obtain ⟨absolute, -, authority, -, joined⟩ := absolute_of_forwardParts visible accepted
  rw [nodes_of_forwardConnection connected]
  refine normalize_origin (fun c mem => joined c ?_) absolute authority
    (forwardParts_eq_ok_iff.mp accepted).2.2
  simp [forwardText, Gateway.urlOf, mem]

/-- A request is sent to the URL that is read from the text that is put together. -/
theorem run_forward (method : String) {v : Url} (visible : ∀ c ∈ text.toList, Url.isVisible c)
    (accepted : forwardParts (.str text) = .ok parts)
    (again : Url.read (forwardText parts) = .ok v)
    (connected : forwardConnection parts source = .ok c)
    (resolved : (KeySource.ofConnection c).resolve env.files = .ok key) (fits : content.fits)
    (placed : key = none ∨ Signature.IsPlaced v) (s : Script) :
    ∃ sent, ((forward env (.str text) (.str method) content source).run s).1 = [sent] ∧
      sent.method = Text.upper method ∧ sent.url = v := by
  obtain ⟨absolute, sound, -, spelled, -⟩ := absolute_of_forwardParts visible accepted
  obtain ⟨made, attempt, url, upper⟩ := Gateway.request_of_read method again
    absolute.rejoined spelled.symm sound resolved fits placed
  have nodes := normalize_forwardConnection visible accepted connected
  refine ⟨made.outgoing, ?_, ?_, ?_⟩
  · simp only [forward, accepted, connected, bind, Except.bind, pure, Except.pure]
    exact Gateway.run_execute_single nodes attempt s
  · rw [Request.method_outgoing, upper]
  · rw [Request.url_outgoing, url]

/-- A request that cannot be made is not sent. -/
theorem run_forward_of_error {problem : Problem} (visible : ∀ c ∈ text.toList, Url.isVisible c)
    (accepted : forwardParts (.str text) = .ok parts)
    (connected : forwardConnection parts source = .ok c)
    (unmade : Gateway.request env c { path := forwardPath parts, method := .str method, content }
      (origin parts) = .error problem) (s : Script) :
    (forward env (.str text) (.str method) content source).run s = ([], .error problem) := by
  have nodes := normalize_forwardConnection visible accepted connected
  simp only [forward, accepted, connected, bind, Except.bind, pure, Except.pure]
  rw [Gateway.execute_eq_ask _ _ _ (by simp [nodes]), nodes, Gateway.run_ask_of_error unmade]

/-- **A request is forwarded to the URL it was given for.** Take any text of visible ASCII
characters that is accepted and that spells a URL, any method and any content that can be written,
and a source whose credentials resolve. Then exactly one request is sent, whatever comes of it, and
its URL is the one that is read from the given text: the same scheme, user, host, path and query,
and the same port unless that is the one of the scheme; an empty query counts as none, and there is
no fragment. The text that is put together must be short enough to be read; it has one character
more than the given one where a slash takes the place of an empty path. With credentials the URL
has to name a host, or at least a port, to be signed for. -/
theorem forward_reads_given (env : Environment) {text method : String} {content : Content}
    {source : KeySource} {parts : UrlParts} {u : Url} {c : Connection}
    {key : Option CredentialSet} (s : Script) (visible : ∀ c ∈ text.toList, Url.isVisible c)
    (accepted : forwardParts (.str text) = .ok parts) (read : Url.read text = .ok u)
    (connected : forwardConnection parts source = .ok c)
    (resolved : (KeySource.ofConnection c).resolve env.files = .ok key)
    (fits : content.fits) (short : (forwardText parts).length ≤ Url.lengthLimit)
    (placed : key = none ∨ Signature.IsPlaced u) :
    ∃ sent, ((forward env (.str text) (.str method) content source).run s).1 = [sent] ∧
      sent.method = Text.upper method ∧ Url.Rejoined u sent.url := by
  obtain ⟨absolute, -, -, spelled, joined⟩ := absolute_of_forwardParts visible accepted
  obtain ⟨v, again, -, same⟩ := Url.read_rejoined read absolute spelled
    (Url.textFault?_eq_none (by rwa [String.length_toList]) joined)
  obtain ⟨sent, one, upper, rfl⟩ := run_forward method visible accepted again connected resolved
    fits (placed.imp_right same.isPlaced) s
  exact ⟨sent, one, upper, same⟩

/-! ## Fixed URLs -/

/-- A user, a port, dot segments, escapes and two slashes in front of a path stay. -/
theorem forward_reads_given_written :
    Url.read "HTTP://u@H:81//a/./%2f?x=%31#f" =
        .ok ⟨"http", "u", "h", some 81, "//a/%2f", some "x=%31", some "f"⟩ ∧
      ∃ sent, ((forward Gateway.noonEnvironment (.str "HTTP://u@H:81//a/./%2f?x=%31#f")
          (.str "get") .none keySource).run ⟨[.received { status := 200 }], false⟩).1 = [sent] ∧
        sent.method = "GET" ∧ sent.url.userInfo = "u" ∧ sent.url.host = "h" ∧
        sent.url.port = some 81 ∧ sent.url.target = "//a/%2f" ∧
        sent.url.query = some "x=%31" ∧ sent.url.fragment = none := by
  have read : Url.read "HTTP://u@H:81//a/./%2f?x=%31#f" =
      .ok ⟨"http", "u", "h", some 81, "//a/%2f", some "x=%31", some "f"⟩ := by
    decide +kernel
  have upper : Text.upper "get" = "GET" := by decide +kernel
  have accepted : forwardParts (.str "HTTP://u@H:81//a/./%2f?x=%31#f") =
      .ok ⟨"http", "u@H:81", "//a/./%2f", "x=%31", "f"⟩ :=
    forwardParts_eq_ok_iff.mpr ⟨by rfl, by decide, by decide⟩
  have visible : ∀ c ∈ "HTTP://u@H:81//a/./%2f?x=%31#f".toList, Url.isVisible c :=
    forall_mem_of_all (by decide +kernel)
  have short : (forwardText ⟨"http", "u@H:81", "//a/./%2f", "x=%31", "f"⟩).length ≤
      Url.lengthLimit := by decide +kernel
  obtain ⟨sent, one, method, same⟩ : ∃ sent,
      ((forward Gateway.noonEnvironment (.str "HTTP://u@H:81//a/./%2f?x=%31#f") (.str "get") .none
        keySource).run ⟨[.received { status := 200 }], false⟩).1 = [sent] ∧
      sent.method = Text.upper "get" ∧ Url.Rejoined _ sent.url :=
    forward_reads_given Gateway.noonEnvironment ⟨[.received { status := 200 }], false⟩ visible
      accepted read (by rfl) (by rfl) rfl short (.inr (.inl (by decide)))
  refine ⟨read, sent, one, method.trans upper, same.userInfo, same.host, ?_, same.target, ?_,
    same.fragment⟩
  · rw [same.port]
    decide
  · rw [same.query]
    decide

/-- Nobody's credentials. -/
def anonymousSource : KeySource := { mode := .str "none" }

/-- A host with a query of this many characters behind it, and no path. -/
def longSpelling (n : Nat) : Url.Spelling where
  scheme := ['h', 't', 't', 'p']
  authority := ['h']
  path := []
  query := some (List.replicate n 'q')
  fragment := none

theorem absolute_longSpelling (n : Nat) : (longSpelling n).Absolute := by
  refine ⟨⟨'h', rfl, by decide⟩, ?_, ?_, nofun, nofun, ?_⟩
  · show ∀ c ∈ ['h', 't', 't', 'p'], _
    exact forall_mem_of_all (by decide)
  · show ∀ c ∈ ['h'], _
    exact forall_mem_of_all (by decide)
  · rintro q same mem
    obtain rfl := Option.some.inj same
    exact absurd (List.eq_of_mem_replicate mem) (by decide)

theorem visible_longSpelling (n : Nat) : ∀ c ∈ (longSpelling n).text, Url.isVisible c := by
  have front : ∀ c ∈ ['h', 't', 't', 'p', ':', '/', '/', 'h', '?'], Url.isVisible c :=
    forall_mem_of_all (by decide)
  intro c mem
  have shape : (longSpelling n).text =
      ['h', 't', 't', 'p', ':', '/', '/', 'h', '?'] ++ List.replicate n 'q' := by
    simp [longSpelling, Url.Spelling.text, Url.Spelling.tail, Url.marked]
  rw [shape] at mem
  rcases List.mem_append.mp mem with mem | mem
  · exact front c mem
  · rw [List.eq_of_mem_replicate mem]
    decide

theorem read_longSpelling {n : Nat} (short : n + 9 ≤ Url.lengthLimit) :
    ∃ u, Url.read (String.ofList (longSpelling n).text) = .ok u ∧ u.path = "" ∧ u.host = "h" := by
  have fine : Url.textFault? (longSpelling n).text = none := by
    refine Url.textFault?_eq_none ?_ (visible_longSpelling n)
    simpa [longSpelling, Url.Spelling.text, Url.Spelling.tail, Url.marked, Nat.add_assoc] using short
  let query := Percent.encode Url.inQuery (String.ofList (List.replicate n 'q'))
  refine ⟨⟨"http", "", "h", none, "", some query, none⟩, Url.read_eq_ok_iff.mpr ?_, rfl, rfl⟩
  rw [String.toList_ofList, Url.spelling_text (absolute_longSpelling n)]
  have scheme : "http" = String.ofList (['h', 't', 't', 'p'].map Char.toLower) := by decide +kernel
  have user : "" = Percent.encode Url.inUserInfo
      (String.ofList (Url.takeUserInfo ['h']).1) := by decide +kernel
  have host : Url.hostOf (Url.hostText ['h']) = .ok "h" := by decide +kernel
  have port : Url.portOf (String.ofList ['h', 't', 't', 'p']) (Url.portText ['h']) = .ok none := by
    decide +kernel
  have path : "" = Percent.encode Url.inPath (String.ofList (Url.normalPath [])) := by
    decide +kernel
  exact ⟨fine, scheme, user, host, port, rfl, path, rfl, rfl⟩

/-- The slash that takes the place of the empty path makes this text too long. -/
theorem run_forward_longSpelling {n : Nat} (long : n + 9 = Url.lengthLimit) (s : Script) :
    (forward Gateway.noonEnvironment (.str (String.ofList (longSpelling n).text)) (.str "GET") .none
      anonymousSource).run s = ([], .error .badUrl) := by
  let parts : UrlParts := ⟨String.ofList (['h', 't', 't', 'p'].map Char.toLower),
    String.ofList ['h'], String.ofList [], String.ofList (List.replicate n 'q'), String.ofList []⟩
  have visible : ∀ c ∈ (String.ofList (longSpelling n).text).toList, Url.isVisible c := by
    rw [String.toList_ofList]
    exact visible_longSpelling n
  have accepted : forwardParts (.str (String.ofList (longSpelling n).text)) = .ok parts := by
    have printable : ∀ c ∈ (longSpelling n).text, Url.isControl c = false := fun c mem =>
      Url.not_isControl_of_isVisible (visible_longSpelling n c mem)
    have sound : UrlParts.authorityFault (longSpelling n).authority = none := by
      show UrlParts.authorityFault ['h'] = none
      decide +kernel
    have apart := UrlParts.split_text (absolute_longSpelling n) printable String.toList_ofList
    rw [sound] at apart
    have scheme : String.ofList (['h', 't', 't', 'p'].map Char.toLower) ≠ "" := by decide
    have authority : String.ofList ['h'] ≠ "" := by decide
    exact forwardParts_eq_ok_iff.mpr ⟨apart, scheme, authority⟩
  have unread : Url.read (forwardText parts) = .error .tooLong := by
    have spelled : (forwardText parts).toList = (longSpelling n).rejoined.text :=
      toList_forwardText (absolute_longSpelling n) rfl
    have count : (longSpelling n).rejoined.text.length = n + 10 := by
      cases n with
      | zero => cases long
      | succ n =>
        simp [longSpelling, Url.Spelling.rejoined, Url.Spelling.text, Url.Spelling.tail,
          Url.marked, Option.filter]
    rw [Url.read_eq, spelled, Url.textFault?, if_pos (by omega)]
  obtain ⟨c, connected, mode⟩ : ∃ c, forwardConnection parts anonymousSource = .ok c ∧
      c.authMode = .anonymous := ⟨_, rfl, rfl⟩
  exact run_forward_of_error visible accepted connected
    (Gateway.Plain.request_of_unread ⟨mode, ⟨"GET", rfl⟩, rfl, rfl⟩ _ ⟨.tooLong, unread⟩) s

/-- A list in a list, and so on. -/
def nestedList : Nat → Json
  | 0 => .arr []
  | n + 1 => .arr [nestedList n]

theorem nesting_nestedList (n : Nat) : (nestedList n).nesting = n + 1 := by
  induction n with
  | zero => rfl
  | succ n ih => simp [nestedList, Json.nesting, Json.nestingOfItems, ih]

/-- What the given text may cost. The port of a scheme written with capitals goes; a URL that names
neither a host nor a port is not signed for; a text of the greatest length without a path becomes too
long; and content that cannot be written is not sent to any URL. -/
theorem forward_drops_port_or_sends_nothing :
    (Url.read "HTTP://h:80/x" = .ok ⟨"http", "", "h", some 80, "/x", none, none⟩ ∧
      ∃ sent, ((forward Gateway.noonEnvironment (.str "HTTP://h:80/x") (.str "GET") .none
          anonymousSource).run ⟨[.received { status := 200 }], false⟩).1 = [sent] ∧
        sent.url = ⟨"http", "", "h", none, "/x", none, none⟩) ∧
    (Url.read "http://u@/x" = .ok ⟨"http", "u", "", none, "/x", none, none⟩ ∧
      (forward Gateway.noonEnvironment (.str "http://u@/x") (.str "GET") .none keySource).run
        ⟨[.received { status := 200 }], false⟩ = ([], .error .noSuchPart)) ∧
    ((∃ u, Url.read (String.ofList (longSpelling 65527).text) = .ok u) ∧
      (forward Gateway.noonEnvironment (.str (String.ofList (longSpelling 65527).text)) (.str "GET")
        .none anonymousSource).run ⟨[.received { status := 200 }], false⟩ =
          ([], .error .badUrl)) ∧
    (forward Gateway.noonEnvironment (.str "http://u@/x") (.str "POST")
      (.document (nestedList 970)) anonymousSource).run ⟨[.received { status := 200 }], false⟩ =
        ([], .error .tooDeep) := by
  have visible : ∀ c ∈ "http://u@/x".toList, Url.isVisible c :=
    forall_mem_of_all (by decide +kernel)
  have accepted : forwardParts (.str "http://u@/x") = .ok ⟨"http", "u@", "/x", "", ""⟩ :=
    forwardParts_eq_ok_iff.mpr ⟨by rfl, by decide, by decide⟩
  refine ⟨⟨by decide +kernel, ?port⟩, ⟨by decide +kernel, ?place⟩, ?long, ?deep⟩
  case port =>
    have visible : ∀ c ∈ "HTTP://h:80/x".toList, Url.isVisible c :=
      forall_mem_of_all (by decide +kernel)
    have accepted : forwardParts (.str "HTTP://h:80/x") = .ok ⟨"http", "h:80", "/x", "", ""⟩ :=
      forwardParts_eq_ok_iff.mpr ⟨by rfl, by decide, by decide⟩
    have again : Url.read (forwardText ⟨"http", "h:80", "/x", "", ""⟩) =
        .ok ⟨"http", "", "h", none, "/x", none, none⟩ := by decide +kernel
    obtain ⟨sent, one, -, url⟩ : ∃ sent,
        ((forward Gateway.noonEnvironment (.str "HTTP://h:80/x") (.str "GET") .none
          anonymousSource).run ⟨[.received { status := 200 }], false⟩).1 = [sent] ∧
        sent.method = Text.upper "GET" ∧ sent.url = _ :=
      run_forward "GET" visible accepted again (by rfl) (by rfl) rfl (.inl rfl) _
    exact ⟨sent, one, url⟩
  case place =>
    refine run_forward_of_error visible accepted (by rfl) ?_ _
    have url : origin ⟨"http", "u@", "/x", "", ""⟩ ++
        Node.rooted (forwardPath ⟨"http", "u@", "/x", "", ""⟩) = "http://u@/x" := by decide +kernel
    have service : Service.ofUrl "http://u@/x" = .ok "es" := by rfl
    simp only [Gateway.request, Gateway.urlOf, url, service]
    rfl
  case long =>
    obtain ⟨u, read, -⟩ := read_longSpelling (n := 65527) (by decide)
    exact ⟨⟨u, read⟩, run_forward_longSpelling (by decide) _⟩
  case deep =>
    have deep : ¬ (Content.document (nestedList 970)).fits := by
      simp [Content.fits, nesting_nestedList, Json.nestingLimit]
    obtain ⟨c, connected, resolved⟩ : ∃ c,
        forwardConnection ⟨"http", "u@", "/x", "", ""⟩ anonymousSource = .ok c ∧
          (KeySource.ofConnection c).resolve Gateway.noonEnvironment.files = .ok none :=
      ⟨_, rfl, rfl⟩
    exact run_forward_of_error visible accepted connected
      (Gateway.request_of_not_fits resolved rfl deep) _

end Explorer

end IndexExplorer
