import IndexExplorer.Discovery
import IndexExplorer.Proofs.Exchange.Run
import IndexExplorer.Proofs.Request.Build
import IndexExplorer.Proofs.Signature.Working
import IndexExplorer.Proofs.Text.Percent
import IndexExplorer.Proofs.Url.Parts

/-!
Asking the control plane of a region for a page.

* `read_controlPlane`, `read_controlPlane_of_not`: which regions have a control plane that can be
  addressed;
* `request_eq`, `request_of_unread`: for these the request for a page can always be made and signed,
  for others never;
* `pages_succ`: what is done about a page.
-/
namespace IndexExplorer.Discovery

open Text UrlParts

/-! ## Addresses of control planes -/

/-- The host of the control plane of a region. -/
def hostName (region : String) : String :=
  Service.serverless ++ "." ++ region ++ ".amazonaws.com"

/-- The URL of the control plane of a region. -/
def home (region : String) : Url := ⟨"https", "", hostName region, none, "/", none, none⟩

/-- A region whose control plane can be addressed: its name is well formed, in ASCII, and not too
long for a URL. -/
structure HasAddress (region : String) : Prop where
  wellFormed : isRegion region
  ascii : ∀ c ∈ region.toList, c.toNat < 0x80
  short : (controlPlane region).toList.length ≤ Url.lengthLimit

variable {region : String} {c : Char}

/-- What the name of a region is made of. -/
theorem mem_region (h : isRegion region) (mem : c ∈ region.toList) :
    isSmallLetter c ∨ c = '-' ∨ Text.isDigit c := by
  by_contra other
  obtain ⟨letter, hyphen, digit⟩ : ¬ isSmallLetter c ∧ c ≠ '-' ∧ ¬ Text.isDigit c := by
    simpa [not_or] using other
  have nowhere : c ∉ ['-'].intercalate (Ip.splitAt '-' region.toList) := by
    refine notMem_intercalate (by simpa using hyphen) fun part mem_part mem => ?_
    unfold isRegion at h
    split at h
    · rename_i area rest parts
      simp only [Bool.and_eq_true, List.all_eq_true] at h
      obtain ⟨⟨⟨⟨⟨-, front⟩, -⟩, words⟩, -⟩, number⟩ := h
      rw [parts] at mem_part
      rcases List.mem_cons.mp mem_part with rfl | behind
      · exact letter (front c mem)
      · have some : rest ≠ [] := List.ne_nil_of_mem behind
        rw [← List.dropLast_append_getLast some] at behind
        rcases List.mem_append.mp behind with inner | last
        · exact letter ((words part inner).2 c mem)
        · have own : rest.getLastD [] = part := by
            rw [List.mem_singleton.mp last, List.getLastD_eq_getLast?,
              List.getLast?_eq_some_getLast some]
            rfl
          exact digit (number c (own ▸ mem))
    · cases h
  rw [Ip.intercalate_splitAt] at nowhere
  exact nowhere mem

/-- No character of a well-formed name has a meaning of its own in a URL. -/
theorem plain_region (h : isRegion region) (mem : c ∈ region.toList) :
    Url.endsAuthority c = false ∧ Url.isControl c = false ∧ c ≠ '@' ∧ c ≠ ':' ∧ c ≠ '[' := by
  by_cases ascii : c.toNat < 0x80
  · have all : ∀ n : Fin 0x80, isSmallLetter (Char.ofNat n.val) = true ∨ Char.ofNat n.val = '-' ∨
        Text.isDigit (Char.ofNat n.val) = true → Url.endsAuthority (Char.ofNat n.val) = false ∧
          Url.isControl (Char.ofNat n.val) = false ∧ Char.ofNat n.val ≠ '@' ∧
          Char.ofNat n.val ≠ ':' ∧ Char.ofNat n.val ≠ '[' := by decide
    exact Url.forall_ascii (p := fun c => isSmallLetter c = true ∨ c = '-' ∨
      Text.isDigit c = true → Url.endsAuthority c = false ∧ Url.isControl c = false ∧ c ≠ '@' ∧
        c ≠ ':' ∧ c ≠ '[') all ascii (mem_region h mem)
  · have other : ∀ d : Char, d.toNat < 0x80 → c ≠ d := by
      rintro d low rfl
      exact ascii low
    have control : Url.isControl c = false := by
      simp only [Url.isControl, Bool.or_eq_false_iff, decide_eq_false_iff_not]
      omega
    refine ⟨?_, control, other _ (by decide), other _ (by decide), other _ (by decide)⟩
    simp [Url.endsAuthority, other '/' (by decide), other '?' (by decide), other '#' (by decide)]

/-- In ASCII a host name holds them as they are. -/
theorem kept_region (h : isRegion region) (mem : c ∈ region.toList) (ascii : c.toNat < 0x80) :
    Url.inHost c ∧ c.toLower = c := by
  have all : ∀ n : Fin 0x80, isSmallLetter (Char.ofNat n.val) = true ∨ Char.ofNat n.val = '-' ∨
      Text.isDigit (Char.ofNat n.val) = true →
        Url.inHost (Char.ofNat n.val) = true ∧ (Char.ofNat n.val).toLower = Char.ofNat n.val := by
    decide
  exact Url.forall_ascii (p := fun c => isSmallLetter c = true ∨ c = '-' ∨
    Text.isDigit c = true → Url.inHost c = true ∧ c.toLower = c) all ascii (mem_region h mem)

/-- The pieces of the address of a control plane. -/
def pieces (region : String) : Url.Spelling :=
  ⟨['h', 't', 't', 'p', 's'], (hostName region).toList, ['/'], none, none⟩

theorem toList_controlPlane (region : String) :
    (controlPlane region).toList = "https://".toList ++ (hostName region).toList ++ ['/'] := by
  simp [controlPlane, hostName]

theorem text_pieces (region : String) : (pieces region).text = (controlPlane region).toList := by
  rw [toList_controlPlane]
  simp [pieces, Url.Spelling.text, Url.Spelling.tail, Url.marked]

theorem toList_hostName (region : String) :
    (hostName region).toList = "aoss.".toList ++ region.toList ++ ".amazonaws.com".toList := by
  simp [hostName, Service.serverless]

theorem head_hostName (region : String) : (hostName region).toList.head? = some 'a' := by
  rw [toList_hostName]
  rfl

/-- What holds of the characters of a region and of those around it holds of the host name. -/
theorem forall_hostName {P : Char → Prop} (own : ∀ c ∈ region.toList, P c)
    (front : ∀ c ∈ "aoss.".toList, P c) (back : ∀ c ∈ ".amazonaws.com".toList, P c) :
    ∀ c ∈ (hostName region).toList, P c := by
  intro c mem
  rw [toList_hostName, List.mem_append, List.mem_append] at mem
  rcases mem with (mem | mem) | mem
  · exact front c mem
  · exact own c mem
  · exact back c mem

theorem plain_hostName (h : isRegion region) : ∀ c ∈ (hostName region).toList,
    Url.endsAuthority c = false ∧ Url.isControl c = false ∧ c ≠ '@' ∧ c ≠ ':' ∧ c ≠ '[' := by
  refine forall_hostName (fun _ mem => plain_region h mem) ?_ ?_
  · exact forall_mem_of_all (by decide)
  · exact forall_mem_of_all (by decide)

theorem absolute_pieces (h : isRegion region) : (pieces region).Absolute := by
  have scheme : ∀ c ∈ ['h', 't', 't', 'p', 's'], isSchemeChar c = true :=
    forall_mem_of_all (by decide)
  have path : ∀ c ∈ ['/'], Url.endsPath c = false := forall_mem_of_all (by decide)
  exact ⟨⟨'h', rfl, by decide⟩, scheme, fun c mem => (plain_hostName h c mem).1, path,
    stops_cons rfl [], nofun⟩

/-- The whole authority is the host. -/
theorem takeUserInfo_hostName (h : isRegion region) :
    Url.takeUserInfo (hostName region).toList = ([], (hostName region).toList) := by
  have nobody : '@' ∉ (hostName region).toList := fun mem =>
    (plain_hostName h '@' mem).2.2.1 rfl
  simp [Url.takeUserInfo, afterLast_of_notMem nobody]

theorem takeHost_hostName (h : isRegion region) :
    Url.takeHost (hostName region).toList = ((hostName region).toList, []) := by
  have plain := plain_hostName h
  have whole : ∀ c ∈ (hostName region).toList, (decide (c = ':') || decide (c = '@')) = false := by
    intro c mem
    simp [(plain c mem).2.2.1, (plain c mem).2.2.2.1]
  unfold Url.takeHost
  dsimp only
  rw [head_hostName, if_neg (by simp), before_of_forall whole]

theorem textFault_controlPlane (h : isRegion region) :
    Url.textFault? (controlPlane region).toList = none ↔
      (controlPlane region).toList.length ≤ Url.lengthLimit := by
  have printable : ∀ c ∈ (controlPlane region).toList, (!Url.isControl c) = true := by
    intro c mem
    have edges : ∀ c ∈ "https://".toList, (!Url.isControl c) = true := forall_mem_of_all (by decide)
    rw [toList_controlPlane, List.mem_append, List.mem_append] at mem
    rcases mem with (mem | mem) | mem
    · exact edges c mem
    · simp [(plain_hostName h c mem).2.1]
    · obtain rfl := List.mem_singleton.mp mem
      decide
  have none : (controlPlane region).toList.dropWhile (!Url.isControl ·) = [] :=
    List.dropWhile_eq_nil_iff.mpr printable
  unfold Url.textFault?
  rw [none]
  by_cases short : (controlPlane region).toList.length ≤ Url.lengthLimit
  · simp [short, Nat.not_lt.mpr short]
  · simp [short, Nat.lt_of_not_le short]

theorem not_isV4_hostName (region : String) : ¬ Ip.isV4 (hostName region).toList := by
  intro v4
  have mem : 'a' ∈ (hostName region).toList := by
    rw [toList_hostName]
    exact List.mem_cons_self
  rcases Ip.mem_of_isV4 v4 mem with digit | point
  · cases digit
  · cases point

theorem isFourNumbers_hostName (region : String) :
    Url.isFourNumbers (hostName region).toList = false := by
  have text : (hostName region).toList =
      ['a', 'o', 's', 's'] ++ '.' :: (region.toList ++ ".amazonaws.com".toList) := by
    rw [toList_hostName]
    simp
  have mem : ['a', 'o', 's', 's'] ∈ Ip.splitAt '.' (hostName region).toList := by
    rw [text, Ip.splitAt_append_sep]
    exact List.mem_append_left _ List.mem_cons_self
  by_contra four
  simp only [Url.isFourNumbers, Bool.not_eq_false, Bool.and_eq_true, List.all_eq_true] at four
  have digit : Char.isDigit 'a' := (four.2 _ mem).2 'a' List.mem_cons_self
  cases digit

theorem kept_hostName (wellFormed : isRegion region) (ascii : ∀ c ∈ region.toList, c.toNat < 0x80) :
    ∀ c ∈ (hostName region).toList, Url.inHost c ∧ c.toLower = c := by
  refine forall_hostName (fun _ mem => kept_region wellFormed mem (ascii _ mem)) ?_ ?_
  · exact forall_mem_of_all (by decide)
  · exact forall_mem_of_all (by decide)

/-- What the host of a control plane is read as. -/
theorem hostOf_hostName (wellFormed : isRegion region) (ascii : ∀ c ∈ region.toList, c.toNat < 0x80) :
    Url.hostOf (hostName region).toList = .ok (hostName region) := by
  have kept := kept_hostName wellFormed ascii
  have low : ∀ c ∈ (hostName region).toList, c.toNat < 0x80 :=
    forall_hostName ascii (forall_mem_of_all (by decide)) (forall_mem_of_all (by decide))
  have lower : (hostName region).toList.map Char.toLower = (hostName region).toList := by
    refine (List.map_congr_left fun c mem => (kept c mem).2).trans (List.map_id _)
  have encoded : Percent.encode Url.inHost (hostName region) = hostName region := by
    rw [← String.toList_inj, Percent.toList_encode,
      Percent.flatMap_of_kept fun c mem => (kept c mem).1]
  have some : (hostName region).toList.isEmpty = false := by
    rw [toList_hostName]
    rfl
  unfold Url.hostOf
  rw [some, isFourNumbers_hostName, head_hostName, lower, String.ofList_toList, encoded]
  simpa [List.all_eq_true] using low

/-- The address of a control plane is read as its URL. -/
theorem read_controlPlane (h : HasAddress region) :
    Url.read (controlPlane region) = .ok (home region) := by
  have user := takeUserInfo_hostName h.wellFormed
  have host := takeHost_hostName h.wellFormed
  have root : Percent.encode Url.inPath (String.ofList (Url.normalPath ['/'])) = "/" := by
    decide +kernel
  have name : "https" = String.ofList (['h', 't', 't', 'p', 's'].map Char.toLower) := by
    decide +kernel
  rw [Url.read_eq_ok_iff]
  refine ⟨(textFault_controlPlane h.wellFormed).mpr h.short, ?_⟩
  rw [← text_pieces, Url.spelling_text (absolute_pieces h.wellFormed)]
  have authority : (pieces region).authority = (hostName region).toList := rfl
  constructor
  case scheme => exact name
  case userInfo =>
    rw [authority, user]
    rfl
  case host =>
    rw [authority, Url.hostText, user, host]
    exact hostOf_hostName h.wellFormed h.ascii
  case port =>
    rw [authority, Url.portText, user, host]
    rfl
  case place =>
    have rooted : ∀ authority, Url.pathFault? true authority ['/'] = none := by decide
    exact rooted _
  case path => exact root.symm
  case query => rfl
  case fragment => rfl

/-- A well-formed name that is not in ASCII, or too long, has no address. -/
theorem read_controlPlane_of_not (wellFormed : isRegion region) (h : ¬ HasAddress region) :
    ∃ fault, Url.read (controlPlane region) = .error fault := by
  cases read : Url.read (controlPlane region) with
  | error fault => exact ⟨fault, rfl⟩
  | ok u =>
    obtain ⟨fault, spells⟩ := Url.read_eq_ok_iff.mp read
    rw [← text_pieces, Url.spelling_text (absolute_pieces wellFormed)] at spells
    have host : Url.hostOf (hostName region).toList = .ok u.host := by
      have read := spells.host
      rwa [show (pieces region).authority = (hostName region).toList from rfl, Url.hostText,
        takeUserInfo_hostName wellFormed, takeHost_hostName wellFormed] at read
    refine absurd ⟨wellFormed, ?_, (textFault_controlPlane wellFormed).mp fault⟩ h
    rcases Url.hostOf_eq_ok host with ⟨empty, -⟩ | ⟨v4, -⟩ | ⟨inner, shape, -⟩ | ⟨ascii, -⟩
    · have first := head_hostName region
      rw [empty] at first
      cases first
    · exact absurd v4 (not_isV4_hostName region)
    · have first := head_hostName region
      rw [shape] at first
      cases first
    · intro c mem
      refine ascii c ?_
      rw [toList_hostName]
      exact List.mem_append_left _ (List.mem_append_right _ mem)

/-! ## Requests for pages -/

/-- The URL of a control plane is taken apart again when a request to it is signed. -/
theorem normal_home (h : HasAddress region) : Url.Normal (home region) := by
  have scheme : "https".toList = ['h', 't', 't', 'p', 's'] := by decide +kernel
  have root : "/".toList = ['/'] := by decide +kernel
  have letters : ∀ c ∈ ['h', 't', 't', 'p', 's'], isSchemeChar c := forall_mem_of_all (by decide)
  have kept : Url.inPath '/' := by decide
  have host := kept_hostName h.wellFormed h.ascii
  refine ⟨⟨?letter, ?scheme, ?userInfo, ?fits_host, ?path, ?rooted, ?query, ?fragment⟩, ?named, ?host⟩
  case letter => exact ⟨'h', congrArg List.head? scheme, by decide⟩
  case scheme =>
    intro c mem
    exact letters c (scheme ▸ mem)
  case userInfo => exact nofun
  case named =>
    intro none
    have first := head_hostName region
    rw [show hostName region = "" from none] at first
    cases first
  case host => exact .inl fun c mem => .inl (host c mem).1
  case fits_host => exact fun c mem => Url.fits_of_inHost (host c mem).1
  case path =>
    intro c mem
    obtain rfl := List.mem_singleton.mp (root ▸ mem : c ∈ ['/'])
    exact .inl kept
  case rooted =>
    show Stops _ "/".toList
    rw [root]
    exact stops_cons rfl []
  case query => exact nofun
  case fragment => exact nofun

/-- The header fields that every request is given. -/
def ownFields : Headers :=
  [("content-type", "application/x-amz-json-1.0"),
   ("x-amz-target", "OpenSearchServerless.ListCollections")]

/-- The request for a page before it is signed. -/
def unsigned (region : String) (timeout token : Json) : Request :=
  { method := "POST"
    url := home region
    headers := Request.withImplied "POST" (home region) (pageBody token).bytes ownFields
    body := (pageBody token).bytes
    timeout := some (Request.timeoutOf timeout) }

theorem make_eq (h : HasAddress region) (timeout token : Json) :
    Request.make "POST" (controlPlane region) fields (pageBody token).bytes
      (some (Request.timeoutOf timeout)) = .ok (unsigned region timeout token) := by
  have upper : Text.upper "POST" = "POST" := by decide +kernel
  refine Request.make_eq_ok_iff.mpr ⟨_, ownFields, read_controlPlane h, rfl, ?_⟩
  rw [upper]
  rfl

theorem undated_unsigned (region : String) (timeout token : Json) :
    Signature.Undated (unsigned region timeout token) := by
  have other : ∀ n, n ∉ Headers.names ownFields → n ≠ "host" → n ≠ "content-length" →
      n ∉ Headers.names (unsigned region timeout token).headers := by
    intro n given host length mem
    rcases Request.mem_names_withImplied mem with mem | rfl | rfl
    · exact given mem
    · exact host rfl
    · exact length rfl
  exact ⟨other _ (by decide) (by decide) (by decide), other _ (by decide) (by decide) (by decide)⟩

variable {env : Environment} {k : CredentialSet} {timeout token : Json}

/-- For a region with an address the request for a page can be made and signed, and goes out as it
is. -/
theorem request_eq (h : HasAddress region) (env : Environment) (k : CredentialSet)
    (timeout token : Json) :
    ∃ r, request env region k timeout token = .ok r ∧ r.outgoing = r ∧ r.url = home region ∧
      r.method = "POST" ∧ r.body = (pageBody token).bytes := by
  obtain ⟨parts, apart, -⟩ := UrlParts.split_normal (normal_home h)
  have signed := (Signature.sign_undated_iff (d := env.digest)
    (p := ⟨k, region, Service.serverless, env.time⟩) (undated_unsigned region timeout token)
    (Request.host_mem_withImplied (normal_home h).named _ _ _)).mpr ⟨parts, apart, rfl⟩
  generalize Signature.signedHeaders _ _ _ _ = headers at signed
  refine ⟨{ unsigned region timeout token with headers }, ?_, Request.outgoing_of_userInfo rfl, rfl,
    rfl, rfl⟩
  simp only [request, make_eq h, bind, Except.bind]
  exact signed

/-- When the address cannot be read the request cannot be made. -/
theorem request_of_unread {fault : UrlFault} (unread : Url.read (controlPlane region) = .error fault) :
    request env region k timeout token = .error .badUrl := by
  simp only [request, Request.make, unread]
  rfl

/-! ## Pages -/

theorem pages_zero (found : List Collection) (token : Json) :
    pages env region k timeout 0 found token = .done (.ok found) := rfl

/-- What is done about a page: the next is asked for, unless there is none or something is wrong. -/
theorem pages_succ (n : Nat) (found : List Collection) (token : Json) :
    pages env region k timeout (n + 1) found token =
      match request env region k timeout token with
      | .error p => .done (.error p)
      | .ok r =>
        r.send.bind fun o =>
          match pageFrom r o >>= readPage region with
          | .error p => .done (.error p)
          | .ok (more, next) =>
            if next.given then pages env region k timeout n (found ++ more) next
            else .done (.ok (found ++ more)) := by
  delta pages
  exact rfl

end IndexExplorer.Discovery
