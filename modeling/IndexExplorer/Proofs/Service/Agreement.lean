import IndexExplorer.Proofs.Request.Build
import IndexExplorer.Proofs.Url.Parts
import IndexExplorer.Service

/-!
The service that a URL is signed for, and the host that its request goes to.

* `isServerless_encode`: encoding a name and writing it in lower case leaves its service;
* `service_agrees`: the service of a URL is that of the host to which its request goes, and of the
  normal form of the URL.
-/
namespace IndexExplorer.Service

open Text

/-- The name ends as the names of serverless hosts do, but for points behind it. -/
def EndsServerless (name : List Char) : Prop :=
  serverlessSuffix.toList <:+ dropEndWhile (· = '.') name

instance (name : List Char) : Decidable (EndsServerless name) :=
  inferInstanceAs (Decidable (_ <:+ _))

theorem ofHost_eq_serverless_iff {host : String} :
    ofHost host = serverless ↔ EndsServerless (lower host).toList := by
  unfold ofHost EndsServerless
  rw [← List.isSuffixOf_iff_suffix]
  dsimp only
  split
  · rename_i ends
    exact ⟨fun _ => ends, fun _ => rfl⟩
  · rename_i other
    exact ⟨fun e => absurd e (by decide), fun ends => absurd ends other⟩

theorem ofHost_congr {a b : String}
    (h : EndsServerless (lower a).toList ↔ EndsServerless (lower b).toList) :
    ofHost a = ofHost b := by
  unfold ofHost
  rw [EndsServerless, EndsServerless, ← List.isSuffixOf_iff_suffix, ← List.isSuffixOf_iff_suffix]
    at h
  simp only [h]

/-! ## Writing a name -/

/-- Characters that are written without a point keep the end of a name. -/
theorem endsServerless_flatMap {write : Char → List Char} (spares : Spares write)
    (own : ∀ c ∈ serverlessSuffix.toList, write c = [c]) (name : List Char) :
    EndsServerless (name.flatMap write) ↔ EndsServerless name := by
  have point : write '.' = ['.'] := own '.' (by decide)
  unfold EndsServerless
  rw [dropEndWhile_flatMap spares point]
  exact suffix_flatMap_iff spares _ own (by decide) (.inr (by decide))

theorem spares_written : Spares (Percent.written Url.inHost) := by
  intro c
  unfold Percent.written
  split
  · exact .inl rfl
  · obtain ⟨tail, shape, all⟩ := Percent.ofChar_eq_cons c
    refine .inr ⟨tail, shape, fun point => ?_⟩
    exact absurd (all '.' point) (by decide)

/-- A character of an encoded name in lower case. -/
def lowerWritten (c : Char) : List Char :=
  if Url.inHost c then [c] else (Percent.ofChar c).map Char.toLower

theorem spares_lowerWritten : Spares lowerWritten := by
  intro c
  unfold lowerWritten
  split
  · exact .inl rfl
  · obtain ⟨tail, shape, all⟩ := Percent.ofChar_eq_cons c
    refine .inr ⟨tail.map Char.toLower, by simp [shape], fun point => ?_⟩
    obtain ⟨d, mem, e⟩ := List.mem_map.mp point
    have other : ∀ d ∈ Percent.marks, d.toLower ≠ '.' := forall_mem_of_all (by decide)
    exact other d (all d mem) e

theorem ascii_encode (s : String) : ∀ c ∈ (Percent.encode Url.inHost s).toList, c.toNat < 0x80 := by
  intro c mem
  rcases Percent.encoded_encode Url.inHost s c mem with kept | mark
  · exact Url.ascii_of_inHost kept
  · have all : ∀ c ∈ Percent.marks, c.toNat < 0x80 := forall_mem_of_all (by decide)
    exact all c mark

theorem toList_lower_encode {cs : List Char} (small : ∀ c ∈ cs, c.toLower = c) :
    (lower (Percent.encode Url.inHost (String.ofList cs))).toList = cs.flatMap lowerWritten := by
  rw [lower_of_ascii _ (ascii_encode _), Percent.toList_encode, String.toList_ofList,
    List.map_flatMap]
  refine List.flatMap_congr fun c mem => ?_
  unfold Percent.written lowerWritten
  split
  · rw [List.map_singleton, small c mem]
  · rfl

theorem toLower_toLower {c : Char} (ascii : c.toNat < 0x80) : c.toLower.toLower = c.toLower := by
  have all : ∀ n : Fin 0x80,
      (Char.ofNat n.val).toLower.toLower = (Char.ofNat n.val).toLower := by decide
  exact Url.forall_ascii (p := fun c => c.toLower.toLower = c.toLower) all ascii

/-- The service of a name stays when the name is encoded and written in lower case. -/
theorem endsServerless_encode {cs : List Char} (ascii : ∀ c ∈ cs, c.toNat < 0x80) :
    let host := Percent.encode Url.inHost (String.ofList (cs.map Char.toLower))
    (EndsServerless (lower host).toList ↔ EndsServerless (lower (String.ofList cs)).toList) ∧
      (EndsServerless host.toList ↔ EndsServerless (lower (String.ofList cs)).toList) := by
  intro host
  have small : ∀ c ∈ cs.map Char.toLower, c.toLower = c := by
    intro c mem
    obtain ⟨d, given, rfl⟩ := List.mem_map.mp mem
    exact toLower_toLower (ascii d given)
  have name : (lower (String.ofList cs)).toList = cs.map Char.toLower := by
    rw [lower_of_ascii _ (by simpa using ascii), String.toList_ofList]
  rw [name]
  constructor
  · rw [toList_lower_encode small]
    exact endsServerless_flatMap spares_lowerWritten (forall_mem_of_all (by decide)) _
  · rw [Percent.toList_encode, String.toList_ofList]
    exact endsServerless_flatMap spares_written (forall_mem_of_all (by decide)) _

theorem dropEndWhile_cons_of_not {p : Char → Bool} {c : Char} (other : p c = false)
    (cs : List Char) : dropEndWhile p (c :: cs) = c :: dropEndWhile p cs := by
  rw [dropEndWhile, List.reverse_cons, List.dropWhile_append, dropEndWhile]
  split
  · rename_i none
    rw [List.isEmpty_iff.mp none, List.dropWhile_cons_of_neg (by simp [other])]
    rfl
  · simp

/-- A bracket in front does not count. -/
theorem endsServerless_cons {c : Char} (other : c ≠ '.') (name : List Char) :
    EndsServerless (c :: name) ↔ EndsServerless name := by
  unfold EndsServerless
  rw [dropEndWhile_cons_of_not (by simpa using other), List.suffix_cons_iff, or_iff_right]
  intro e
  have head : serverlessSuffix.toList.head? = some '.' := by decide
  rw [e] at head
  exact other (Option.some.inj head)

/-! ## Two readings of a URL -/

theorem hasScheme_append (front back : List Char) :
    hasScheme (front ++ ':' :: '/' :: '/' :: back) = true := by
  induction front with
  | nil => simp [hasScheme]
  | cons c front ih => simp [hasScheme, ih]

/-- The service of a text that is a scheme, an authority and what follows. -/
theorem ofUrl_of_absolute {text : String} {p : Url.Spelling} (spelled : text.toList = p.text) :
    ofUrl text = (UrlParts.split text).map fun parts => ofHost parts.host := by
  have schemed : hasScheme text.toList = true := by
    rw [spelled]
    exact hasScheme_append ..
  simp only [ofUrl, schemed, ↓reduceIte]

/-- Digits and points have no case. -/
theorem toList_lower_of_isV4 {cs : List Char} (h : Ip.isV4 cs) :
    (lower (String.ofList cs)).toList = cs := by
  have all : ∀ n : Fin 0x80, (Char.ofNat n.val).isDigit = true →
      (Char.ofNat n.val).toLower = Char.ofNat n.val := by decide
  have digits : ∀ c ∈ cs, c.toNat < 0x80 ∧ c.toLower = c := by
    intro c mem
    rcases Ip.mem_of_isV4 h mem with digit | rfl
    · have ascii := Url.ascii_of_isAlphanum (c := c) (by simp [Char.isAlphanum, digit])
      exact ⟨ascii,
        Url.forall_ascii (p := fun c => c.isDigit = true → c.toLower = c) all ascii digit⟩
    · decide
  rw [lower_of_ascii _ (by simpa using fun c mem => (digits c mem).1), String.toList_ofList]
  calc cs.map Char.toLower
      = cs.map id := List.map_congr_left fun c mem => (digits c mem).2
    _ = cs := List.map_id cs

/-- The host that a URL is read with has the service of the host that its parts have. Only an
address in brackets keeps its letter case. -/
theorem ofHost_of_hostText {authority : List Char} {host : String}
    (sound : UrlParts.bracketFault authority = none)
    (closed : Url.Closed (UrlParts.afterLast '@' authority))
    (read : Url.hostOf (Url.hostText authority) = .ok host) (named : host ≠ "") :
    ofHost host = ofHost (String.ofList (UrlParts.hostIn authority)) ∧
      (':' ∉ host.toList → (EndsServerless (lower host).toList ↔ EndsServerless host.toList)) := by
  rcases Url.host_of_hostText sound closed read named with ⟨same, kind⟩ | ⟨cs, shape, ascii, e⟩
  · refine ⟨by rw [← same, String.ofList_toList], fun colonless => ?_⟩
    rcases kind with v4 | bracketed
    · have lowered := toList_lower_of_isV4 v4
      rw [String.ofList_toList] at lowered
      rw [lowered]
    · exact absurd bracketed.colon colonless
  · obtain ⟨lowered, exactly⟩ := endsServerless_encode ascii
    rw [← e] at lowered exactly
    refine ⟨ofHost_congr ?_, fun _ => lowered.trans exactly.symm⟩
    rcases shape with rfl | rfl
    · exact lowered
    · have ascii_tail : ∀ c ∈ (String.ofList (UrlParts.hostIn authority)).toList,
          c.toNat < 0x80 := by
        rw [String.toList_ofList]
        exact fun c mem => ascii c (List.mem_cons_of_mem _ mem)
      have bracket : (lower (String.ofList ('[' :: UrlParts.hostIn authority))).toList =
          '[' :: (lower (String.ofList (UrlParts.hostIn authority))).toList := by
        rw [lower_of_ascii _ (by rwa [String.toList_ofList]), lower_of_ascii _ ascii_tail,
          String.toList_ofList, String.toList_ofList]
        rfl
      rw [lowered, bracket]
      exact endsServerless_cons (by decide) _

/-- **Two readings of a URL.** Where a request goes is read from the URL by one reader, and what it
is signed for by another, which only takes the URL apart. They agree for every URL with a scheme
and a host: it is signed for the serverless service exactly when the name of the host to which the
request goes ends like those of serverless hosts, up to points behind it, and the normal form of
the URL is signed for the same service. Addresses in brackets keep their letter case, so that
theirs does not count; and a bracket has to be closed once, because the two look for different
ends. -/
theorem service_agrees {method : Json} {content : Content} {fields timeout : Json} {text : String}
    {r : Request} {service : String}
    (built : Request.build method (.str text) content fields timeout = .ok r)
    (told : ofUrl text = .ok service) (scheme : r.url.scheme ≠ "") (host : r.url.host ≠ "")
    (closed : Url.Closed (UrlParts.afterLast '@' (Url.spelling text.toList).authority)) :
    (service = serverless ↔ EndsServerless (lower r.url.host).toList) ∧
      (':' ∉ r.url.host.toList → (service = serverless ↔ EndsServerless r.url.host.toList)) ∧
      ofUrl r.url.text = .ok service := by
  have read : Url.read text = .ok r.url := Request.url_of_build built
  obtain ⟨absolute, whole⟩ := Url.absolute_of_read read scheme host
  obtain ⟨fine, spells⟩ := Url.read_eq_ok_iff.mp read
  have printable := Url.not_isControl_of_textFault fine
  rw [← whole] at printable
  have apart := UrlParts.split_text absolute printable whole.symm
  rw [ofUrl_of_absolute whole.symm, apart] at told
  cases fault : UrlParts.authorityFault (Url.spelling text.toList).authority with
  | some reason =>
    rw [fault] at told
    cases told
  | none =>
    rw [fault] at told
    have named : ofHost (String.ofList (UrlParts.hostIn (Url.spelling text.toList).authority)) =
        service := by
      have known := Except.ok.inj told
      dsimp only at known
      rwa [UrlParts.host_eq, String.toList_ofList] at known
    obtain ⟨same, exactly⟩ := ofHost_of_hostText (UrlParts.bracketFault_of_authorityFault fault)
      closed spells.host host
    rw [named] at same
    have serverless_iff : service = serverless ↔ EndsServerless (lower r.url.host).toList := by
      rw [← same]
      exact ofHost_eq_serverless_iff
    refine ⟨serverless_iff, fun colonless => serverless_iff.trans (exactly colonless), ?_⟩
    obtain ⟨parts, split, found⟩ :=
      UrlParts.split_normal (Url.normal_of_read read scheme host fault closed)
    rw [ofUrl_of_absolute (Url.text_written scheme host).symm, split]
    exact congrArg Except.ok ((congrArg ofHost found).trans same)

/-- A request for a URL that can be read, with no body and no header fields of its own. -/
theorem build_of_read {text : String} {u : Url} (h : Url.read text = .ok u) :
    ∃ r, Request.build (.str "GET") (.str text) .none .null .null = .ok r ∧ r.url = u :=
  ⟨_, Request.build_eq_ok_iff.mpr ⟨"GET", [], rfl, rfl, rfl,
    Request.make_eq_ok_iff.mpr ⟨u, [], h, rfl, rfl⟩⟩, rfl⟩

/-- Letter case, a port and a point at the end do not tell the two apart. -/
theorem service_agrees_upper_case :
    ∃ r, Request.build (.str "GET") (.str "https://u@X.AOSS.amazonaws.com.:443/?q=es") .none .null
        .null = .ok r ∧
      r.url.host = "x.aoss.amazonaws.com." ∧ ofUrl r.url.text = .ok serverless := by
  have read : Url.read "https://u@X.AOSS.amazonaws.com.:443/?q=es" =
      .ok ⟨"https", "u", "x.aoss.amazonaws.com.", none, "/", some "q=es", none⟩ := by
    decide +kernel
  have told : ofUrl "https://u@X.AOSS.amazonaws.com.:443/?q=es" = .ok serverless := by rfl
  obtain ⟨r, built, url⟩ := build_of_read read
  have agrees := service_agrees built told (by rw [url]; decide) (by rw [url]; decide)
    fun bracket => absurd bracket (by decide +kernel)
  exact ⟨r, built, by rw [url], agrees.2.2⟩

/-- Why a bracket has to be closed once, and why the letter case of an address does not count. In
the first URL the bracket is closed before the at sign only, so that one reader takes the port for
a part of the name; in the second one it is closed twice, and the readers stop at different places;
in the third one the serverless name is in upper case, and stays so. -/
theorem agreement_needs_closed_bracket :
    (∃ r, Request.build (.str "GET") (.str "http://]@[v1.x.aoss.amazonaws.com:80/") .none .null
        .null = .ok r ∧
      r.url = ⟨"http", "%5D", "%5Bv1.x.aoss.amazonaws.com", none, "/", none, none⟩ ∧
      EndsServerless r.url.host.toList ∧ ofUrl r.url.text = .ok serverless ∧
      ofUrl "http://]@[v1.x.aoss.amazonaws.com:80/" = .ok managed) ∧
    (∃ r, Request.build (.str "GET") (.str "http://[fe80::1%a]:b.aoss.amazonaws.com]/") .none .null
        .null = .ok r ∧
      r.url = ⟨"http", "", "fe80::1%a]:b.aoss.amazonaws.com", none, "/", none, none⟩ ∧
      EndsServerless r.url.host.toList ∧
      ofUrl "http://[fe80::1%a]:b.aoss.amazonaws.com]/" = .ok managed) ∧
    (∃ r, Request.build (.str "GET") (.str "http://[fe80::1%.AOSS.amazonaws.com]/") .none .null
        .null = .ok r ∧
      r.url = ⟨"http", "", "fe80::1%.AOSS.amazonaws.com", none, "/", none, none⟩ ∧
      ¬ EndsServerless r.url.host.toList ∧
      ofUrl "http://[fe80::1%.AOSS.amazonaws.com]/" = .ok serverless) := by
  refine ⟨?unclosed, ?twice, ?upper⟩
  case unclosed =>
    have read : Url.read "http://]@[v1.x.aoss.amazonaws.com:80/" =
        .ok ⟨"http", "%5D", "%5Bv1.x.aoss.amazonaws.com", none, "/", none, none⟩ := by
      decide +kernel
    obtain ⟨r, built, url⟩ := build_of_read read
    refine ⟨r, built, url, ?_, ?_, by rfl⟩
    · rw [url]
      decide +kernel
    · rw [url]
      rfl
  case twice =>
    have read : Url.read "http://[fe80::1%a]:b.aoss.amazonaws.com]/" =
        .ok ⟨"http", "", "fe80::1%a]:b.aoss.amazonaws.com", none, "/", none, none⟩ := by
      decide +kernel
    obtain ⟨r, built, url⟩ := build_of_read read
    refine ⟨r, built, url, ?_, by rfl⟩
    rw [url]
    decide +kernel
  case upper =>
    have read : Url.read "http://[fe80::1%.AOSS.amazonaws.com]/" =
        .ok ⟨"http", "", "fe80::1%.AOSS.amazonaws.com", none, "/", none, none⟩ := by
      decide +kernel
    obtain ⟨r, built, url⟩ := build_of_read read
    refine ⟨r, built, url, ?_, by rfl⟩
    rw [url]
    decide +kernel

end IndexExplorer.Service
