import IndexExplorer.Proofs.Exchange.Alike
import IndexExplorer.Proofs.Signature.Verify
import Mathlib.Logic.Relation

/-!
What a signature depends on in the headers of a request.

Signing looks the headers up by name and writes their names in order, so that only the values of
each name matter, and those of the names that the transport manages do not.

* `SameValues`: two lists of headers with the same values for each name, and what is made of them
  in signing;
* `canonicalRequest_congr`, `nameList_congr`: the same is signed of them;
* `Edit`: changes to the fields of a request that signing does not see;
* **`signature_ignores_transport`**: two requests with the same method, URL and body, and the same
  joined value for each name that the transport does not manage, get the same signature.
-/
namespace IndexExplorer.Signature

open Headers

/-! ## Headers with the same values -/

/-- The same values for each name, in the same order. -/
def SameValues (h g : Headers) : Prop := ∀ n, h.getAll n = g.getAll n

variable {h g : Headers} {n : String}

theorem getAll_append (h top : Headers) (n : String) :
    getAll (h ++ top) n = h.getAll n ++ top.getAll n := List.filterMap_append

/-- A name occurs when it has a value. -/
theorem mem_names_iff_getAll : n ∈ names h ↔ h.getAll n ≠ [] := by
  constructor
  · intro mem empty
    obtain ⟨v, field⟩ := exists_mem_of_mem_names mem
    have value : v ∈ h.getAll n := List.mem_filterMap.mpr ⟨(n, v), field, by simp⟩
    rw [empty] at value
    cases value
  · intro some
    by_contra absent
    exact some (getAll_eq_nil absent)

theorem getAll_filter_of_dropped (h : Headers) (p : String → Bool) (dropped : p n = false) :
    getAll (h.filter fun (m, _) => p m) n = [] := by
  refine getAll_eq_nil ?_
  rw [names_filter, List.mem_filter, dropped]
  simp

/-- Where no name occurs twice, the one value of a name is all that it has. -/
theorem getAll_eq_toList (nodup : (names h).Nodup) (n : String) :
    h.getAll n = (h.get? n).toList := by
  rw [get?_eq_head?]
  by_cases mem : n ∈ names h
  · obtain ⟨v, field⟩ := exists_mem_of_mem_names mem
    rw [getAll_eq_singleton nodup field]
    rfl
  · rw [getAll_eq_nil mem]
    rfl

namespace SameValues

theorem mem_names_iff (same : SameValues h g) : n ∈ names h ↔ n ∈ names g := by
  rw [mem_names_iff_getAll, mem_names_iff_getAll, same n]

theorem has_eq (same : SameValues h g) (n : String) : h.has n = g.has n := by
  rw [Bool.eq_iff_iff, has_eq_true_iff, has_eq_true_iff]
  exact same.mem_names_iff

theorem get?_eq (same : SameValues h g) (n : String) : h.get? n = g.get? n := by
  rw [get?_eq_head?, get?_eq_head?, same n]

theorem append (same : SameValues h g) (top : Headers) : SameValues (h ++ top) (g ++ top) := by
  intro n
  rw [getAll_append, getAll_append, same n]

theorem filter (same : SameValues h g) (p : String → Bool) :
    SameValues (h.filter fun (m, _) => p m) (g.filter fun (m, _) => p m) := by
  intro n
  cases kept : p n with
  | true => rw [getAll_filter h p kept, getAll_filter g p kept, same n]
  | false => rw [getAll_filter_of_dropped h p kept, getAll_filter_of_dropped g p kept]

theorem erase (same : SameValues h g) (name : String) :
    SameValues (h.erase name) (g.erase name) := by
  intro n
  by_cases e : name = n
  · rw [e, getAll_erase_self, getAll_erase_self]
  · rw [getAll_erase_of_ne h e, getAll_erase_of_ne g e, same n]

/-- A field in the place of all others of its name. -/
theorem replace (same : SameValues h g) (name value : String) :
    SameValues (h.erase name ++ [(name, value)]) (g.erase name ++ [(name, value)]) :=
  (same.erase name).append _

end SameValues

/-! ## Joined values -/

/-- The values of a name with commas between them, if there are any. -/
def joinValues (values : List String) : Option String :=
  values.foldl (fun | some joined, v => some (joined ++ ", " ++ v) | none, v => some v) none

/-- The joined headers have for each name its values, joined. -/
theorem get?_joined (h : Headers) (n : String) : h.joined.get? n = joinValues (h.getAll n) := by
  have step : ∀ acc : Headers, (h.foldl (fun acc (m, v) => join acc m v) acc).get? n =
      (h.getAll n).foldl
        (fun | some joined, v => some (joined ++ ", " ++ v) | none, v => some v)
        (acc.get? n) := by
    induction h with
    | nil => exact fun acc => rfl
    | cons f h ih =>
      obtain ⟨m, v⟩ := f
      intro acc
      rw [List.foldl_cons, ih]
      show List.foldl _ ((acc.join m v).get? n) _ = _
      rw [join_eq_alter]
      by_cases e : m = n
      · rw [e, getAll_cons_self, List.foldl_cons, Named.get?_alter_self]
        cases acc.get? n <;> rfl
      · rw [getAll_cons_of_ne v h e, Named.get?_alter_of_ne acc _ e]
  exact step []

variable {r s : Request}

/-- The headers that take part in signing have the same values when the joined ones do that the
transport does not manage. -/
theorem sameValues_ownHeaders
    (same : ∀ n, n ∉ transportHeaders → r.headers.joined.get? n = s.headers.joined.get? n) :
    SameValues (ownHeaders r) (ownHeaders s) := by
  intro n
  by_cases managed : n ∈ transportHeaders
  · have dropped : (!transportHeaders.contains n) = false := by simpa using managed
    rw [ownHeaders, ownHeaders, getAll_filter_of_dropped _ (!transportHeaders.contains ·) dropped,
      getAll_filter_of_dropped _ (!transportHeaders.contains ·) dropped]
  · have kept : (!transportHeaders.contains n) = true := by simpa using managed
    rw [ownHeaders, ownHeaders, getAll_filter _ (!transportHeaders.contains ·) kept,
      getAll_filter _ (!transportHeaders.contains ·) kept, getAll_eq_toList (nodup_joined _),
      getAll_eq_toList (nodup_joined _), same n managed]

/-! ## What is made of them -/

theorem dated_agree (same : SameValues h g) (moment : String) :
    Result.Agree SameValues (dated h moment) (dated g moment) := by
  unfold dated
  rw [same.has_eq]
  split
  · cases Moment.ofCompact moment with
    | ok m => exact .ok ((same.replace "date" m.mail).erase "x-amz-date")
    | error fault => cases fault <;> exact .error _
  · exact .ok (same.replace "x-amz-date" moment)

theorem tokened_agree (same : SameValues h g) (token : Option String) :
    SameValues (tokened h token) (tokened g token) := by
  unfold tokened
  cases token.filter (!·.isEmpty) with
  | some t => exact same.replace "x-amz-security-token" t
  | none => exact same

theorem workingHeaders_agree (d : Digest) (p : Purpose) (hashBody : Bool)
    (own : SameValues (ownHeaders r) (ownHeaders s)) (body : r.body = s.body) :
    Result.Agree SameValues (workingHeaders d p hashBody r) (workingHeaders d p hashBody s) := by
  have hashed : SameValues
      (if hashBody then ownHeaders r ++ [(hashHeader, d.hashText r.body)] else ownHeaders r)
      (if hashBody then ownHeaders s ++ [(hashHeader, d.hashText s.body)] else ownHeaders s) := by
    rw [body]
    split
    · exact own.append _
    · exact own
  exact (dated_agree (hashed.erase "authorization") p.moment).map fun _ _ same =>
    tokened_agree same _

theorem withHost_agree (url : UrlParts) (same : SameValues h g) :
    Result.Agree SameValues (withHost url h) (withHost url g) := by
  unfold withHost
  rw [same.has_eq]
  split
  · exact .ok same
  · cases hostOf url with
    | ok host => exact .ok (same.append _)
    | error e => exact .error e

/-! ## What is signed of them -/

/-- Texts in order, each once, are told by which of them there are. -/
theorem mergeSort_eraseDups_congr {texts others : List String}
    (same : ∀ t, t ∈ texts ↔ t ∈ others) :
    (texts.eraseDups.mergeSort fun a b => !(b < a)) =
      others.eraseDups.mergeSort fun a b => !(b < a) := by
  have perm : texts.eraseDups.Perm others.eraseDups := by
    rw [List.perm_ext_iff_of_nodup (nodup_eraseDups _) (nodup_eraseDups _)]
    intro t
    rw [List.mem_eraseDups, List.mem_eraseDups, same t]
  exact mergeSort_eq_of_perm (perm.trans (List.mergeSort_perm _ _).symm) (pairwise_mergeSort _)

theorem sortedNames_congr (same : ∀ n, n ∈ names h ↔ n ∈ names g) : sortedNames h = sortedNames g :=
  mergeSort_eraseDups_congr same

theorem nameList_congr (same : ∀ n, n ∈ names h ↔ n ∈ names g) : nameList h = nameList g := by
  rw [nameList_eq_trimmed, nameList_eq_trimmed, mergeSort_eraseDups_congr]
  intro t
  simp only [List.mem_map, same]

/-- The form that is signed depends on the values of each name alone. -/
theorem canonicalRequest_congr (same : SameValues h g) (method : String) (url : UrlParts)
    (bodyHash : String) :
    canonicalRequest method url h bodyHash = canonicalRequest method url g bodyHash := by
  have line : headerLine h = headerLine g := by
    funext n
    rw [headerLine, headerLine, same n]
  rw [canonicalRequest, canonicalRequest, sortedNames_congr fun _ => same.mem_names_iff,
    nameList_congr fun _ => same.mem_names_iff, line]

/-- One and the same value authenticates both requests. -/
def SameAuthorization (r s : Request) : Prop :=
  ∃ value, r.headers.getAll "authorization" = [value] ∧ s.headers.getAll "authorization" = [value]

/-- Two requests are signed with the same value, or neither is, for the same reason. -/
theorem sign_congr (d : Digest) (p : Purpose) (hashBody : Bool) (method : r.method = s.method)
    (url : r.url = s.url) (body : r.body = s.body)
    (own : SameValues (ownHeaders r) (ownHeaders s)) :
    Result.Agree SameAuthorization (sign d p hashBody r) (sign d p hashBody s) := by
  unfold sign
  rw [url]
  refine (workingHeaders_agree d p hashBody own body).bind fun working others same => ?_
  refine .bindSame _ fun parts => ?_
  refine (withHost_agree parts (same.filter (!excludedHeaders.contains ·))).bind
    fun signed received both => .ok ?_
  have canonical := canonicalRequest_congr both r.method parts
    ((working.get? hashHeader).getD (d.hashText r.body))
  refine ⟨_, getAll_assignAll_concat .., ?_⟩
  rw [canonical, nameList_congr fun _ => both.mem_names_iff, same.get?_eq, method, body]
  exact getAll_assignAll_concat ..

/-! ## Changes to the fields of a request -/

/-- A change to fields that signing does not see: a field that the transport manages is added, two
neighbours with different names change places, or a name is written in another letter case. -/
inductive Edit : List (String × String) → List (String × String) → Prop
  | managed (front back) {name : String} (value : String)
    (transport : Text.lowerAscii name ∈ transportHeaders) :
    Edit (front ++ back) (front ++ (name, value) :: back)
  | swapped (front back) {f g : String × String}
    (different : Text.lowerAscii f.1 ≠ Text.lowerAscii g.1) :
    Edit (front ++ f :: g :: back) (front ++ g :: f :: back)
  | recased (front back) {name other : String} (value : String)
    (same : Text.lowerAscii name = Text.lowerAscii other) :
    Edit (front ++ (name, value) :: back) (front ++ (other, value) :: back)

theorem ofList_append (front back : List (String × String)) :
    Headers.ofList (front ++ back) = Headers.ofList front ++ Headers.ofList back := List.map_append

theorem ofList_cons (f : String × String) (fields : List (String × String)) :
    Headers.ofList (f :: fields) = (Text.lowerAscii f.1, f.2) :: Headers.ofList fields := rfl

theorem Edit.getAll_eq {fields others : List (String × String)} (edit : Edit fields others)
    (own : n ∉ transportHeaders) :
    (Headers.ofList fields).getAll n = (Headers.ofList others).getAll n := by
  cases edit with
  | @managed front back name value transport =>
    have other : Text.lowerAscii name ≠ n := fun e => own (e ▸ transport)
    rw [ofList_append, ofList_append, ofList_cons, getAll_append, getAll_append,
      getAll_cons_of_ne _ _ other]
  | @swapped front back f g different =>
    simp only [ofList_append, ofList_cons, getAll_append]
    by_cases first : Text.lowerAscii f.1 = n
    · subst first
      rw [getAll_cons_self, getAll_cons_of_ne _ _ (Ne.symm different),
        getAll_cons_of_ne _ _ (Ne.symm different), getAll_cons_self]
    · rw [getAll_cons_of_ne _ _ first]
      by_cases second : Text.lowerAscii g.1 = n
      · subst second
        rw [getAll_cons_self, getAll_cons_self, getAll_cons_of_ne _ _ first]
      · rw [getAll_cons_of_ne _ _ second, getAll_cons_of_ne _ _ second,
          getAll_cons_of_ne _ _ first]
  | @recased front back name other value same =>
    rw [ofList_append, ofList_append, ofList_cons, ofList_cons, same]

/-- The same holds of any number of changes, made or taken back. -/
theorem getAll_eq_of_edits {fields others : List (String × String)}
    (edits : Relation.EqvGen Edit fields others) (own : n ∉ transportHeaders) :
    (Headers.ofList fields).getAll n = (Headers.ofList others).getAll n := by
  induction edits with
  | rel _ _ edit => exact edit.getAll_eq own
  | refl => rfl
  | symm _ _ _ ih => exact ih.symm
  | trans _ _ _ _ _ first second => exact first.trans second

/-- **Headers that the transport manages are not signed**, and neither is the order of headers with
different names or the letter case of names: two requests with the same method, URL and body are
signed with the same value, or both are not signed for the same reason, whenever they have the same
joined value for each other name; and so it is after any changes to the fields of a request that
add, remove or replace managed fields, reorder fields of different names, or write names in another
letter case. -/
theorem signature_ignores_transport (d : Digest) (p : Purpose) (hashBody : Bool) (r : Request) :
    (∀ s : Request, r.method = s.method → r.url = s.url → r.body = s.body →
      (∀ n, n ∉ transportHeaders → r.headers.joined.get? n = s.headers.joined.get? n) →
      Result.Agree SameAuthorization (sign d p hashBody r) (sign d p hashBody s)) ∧
    ∀ fields others, Relation.EqvGen Edit fields others →
      Result.Agree SameAuthorization (sign d p hashBody { r with headers := .ofList fields })
        (sign d p hashBody { r with headers := .ofList others }) := by
  constructor
  · intro s method url body same
    exact sign_congr d p hashBody method url body (sameValues_ownHeaders same)
  · intro fields others edits
    refine sign_congr d p hashBody rfl rfl rfl (sameValues_ownHeaders fun n own => ?_)
    rw [get?_joined, get?_joined, getAll_eq_of_edits edits own]

/-- A note in one field, and what a browser calls itself. -/
def oneNote : Headers := [("host", "h"), ("user-agent", "x"), ("x-note", "a, b")]

/-- The note in two fields, and what is accepted. -/
def twoNotes : Headers := [("x-note", "a"), ("accept", "*/*"), ("host", "h"), ("x-note", "b")]

theorem get?_joined_notes (own : n ∉ transportHeaders) :
    oneNote.joined.get? n = twoNotes.joined.get? n := by
  have one : oneNote.joined = [("host", "h"), ("user-agent", "x"), ("x-note", "a, b")] := by rfl
  have two : twoNotes.joined = [("x-note", "a, b"), ("accept", "*/*"), ("host", "h")] := by rfl
  have agent : "user-agent" ≠ n := fun e => own (e ▸ by decide)
  have accept : "accept" ≠ n := fun e => own (e ▸ by decide)
  rw [one, two]
  by_cases host : "host" = n
  · rw [← host]
    rfl
  · rw [Named.get?_cons_of_ne _ _ host, Named.get?_cons_of_ne _ _ agent]
    by_cases note : "x-note" = n
    · rw [note, Named.get?_cons_self, Named.get?_cons_self]
    · rw [Named.get?_cons_of_ne _ _ note, Named.get?_cons_of_ne _ _ note,
        Named.get?_cons_of_ne _ _ accept, Named.get?_cons_of_ne _ _ host]

theorem signature_ignores_transport_notes :
    let r := emptyRequest "h" none oneNote
    let s := emptyRequest "h" none twoNotes
    (r.method = s.method ∧ r.url = s.url ∧ r.body = s.body ∧
      ∀ n, n ∉ transportHeaders → r.headers.joined.get? n = s.headers.joined.get? n) ∧
    (∃ out, sign .sha256 (inRegion "eu") true r = .ok out) ∧
    Result.Agree SameAuthorization (sign .sha256 (inRegion "eu") true r)
      (sign .sha256 (inRegion "eu") true s) ∧
    Relation.EqvGen Edit [("User-Agent", "x"), ("Host", "h")] [("host", "h")] ∧
    Result.Agree SameAuthorization
      (sign .sha256 (inRegion "eu") true
        { r with headers := .ofList [("User-Agent", "x"), ("Host", "h")] })
      (sign .sha256 (inRegion "eu") true { r with headers := .ofList [("host", "h")] }) := by
  intro r s
  have undated : Undated r := ⟨by decide, by decide⟩
  have signed := (sign_undated_iff (d := .sha256) (p := inRegion "eu") undated (by decide)).mpr
    ⟨_, split_ofHost, rfl⟩
  have edits : Relation.EqvGen Edit [("User-Agent", "x"), ("Host", "h")] [("host", "h")] :=
    .trans _ [("Host", "h")] _
      (.symm _ _ (.rel _ _ (Edit.managed [] [("Host", "h")] "x" (by decide))))
      (.rel _ _ (Edit.recased [] [] "h" (by decide)))
  obtain ⟨headers, fields⟩ := signature_ignores_transport .sha256 (inRegion "eu") true r
  exact ⟨⟨rfl, rfl, rfl, fun _ => get?_joined_notes⟩, ⟨_, signed⟩,
    headers s rfl rfl rfl fun _ => get?_joined_notes, edits, fields _ _ edits⟩

end IndexExplorer.Signature
