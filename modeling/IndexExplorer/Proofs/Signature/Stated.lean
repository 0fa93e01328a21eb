import IndexExplorer.Proofs.Headers
import IndexExplorer.Proofs.Text.Split
import IndexExplorer.Signature

/-!
What the value that authenticates says of how it was made.

* `Stated.read?`: the value taken apart;
* `read?_authorization`: what is written into the value is read from it again, when region and
  service have no slash and no name has a capital;
* `splitAt_nameList`: the list of names is read again as the names that are signed.
-/
namespace IndexExplorer.Signature

open Headers

/-- What the value that authenticates says of how it was made. -/
structure Stated where
  day : String
  region : String
  service : String
  names : String
  signature : String
deriving DecidableEq, Repr

/-- What stands in front of the names of the signed headers. -/
def namesMark : List Char := ',' :: " SignedHeaders=".toList

/-- What stands in front of the signature. -/
def signatureMark : List Char := ',' :: " Signature=".toList

namespace Stated

/-- The value taken apart, from its end on. -/
def read? (value : String) : Option Stated := do
  let (front, signature) ← Text.cutLast? signatureMark value.toList
  let (front, names) ← Text.cutLast? namesMark front
  guard ("AWS4-HMAC-SHA256 Credential=".toList.isPrefixOf front)
  match (Ip.splitAt '/' front).reverse with
  | last :: service :: region :: day :: _ :: _ =>
    guard (last = "aws4_request".toList)
    return ⟨String.ofList day, String.ofList region, String.ofList service, String.ofList names,
      String.ofList signature⟩
  | _ => none

def scope (a : Stated) : String := a.day ++ "/" ++ a.region ++ "/" ++ a.service ++ "/aws4_request"

/-- The names of the headers that are said to be signed. -/
def headerNames (a : Stated) : List String := (Ip.splitAt ';' a.names.toList).map String.ofList

end Stated

variable {p : Purpose}

/-! ## The value that authenticates -/

/-- The first part of the value: the scheme, and whose key it is for which scope. -/
def credential (p : Purpose) : String :=
  "AWS4-HMAC-SHA256 Credential=" ++ p.credentials.accessKey ++ "/" ++ p.scope

theorem toList_authorization (p : Purpose) (names signature : String) :
    (authorization p names signature).toList = (credential p).toList ++
      (namesMark ++ names.toList) ++ (signatureMark ++ signature.toList) := by
  have listing : ", SignedHeaders=".toList = namesMark := by decide
  have ending : ", Signature=".toList = signatureMark := by decide
  unfold authorization credential
  simp only [String.toList_append, listing, ending, List.append_assoc]

theorem splitAt_credential {p : Purpose} (day : '/' ∉ p.day.toList) (region : '/' ∉ p.region.toList)
    (service : '/' ∉ p.service.toList) :
    Ip.splitAt '/' (credential p).toList =
      Ip.splitAt '/' ("AWS4-HMAC-SHA256 Credential=" ++ p.credentials.accessKey).toList ++
        [p.day.toList, p.region.toList, p.service.toList, "aws4_request".toList] := by
  have slash : "/".toList = ['/'] := by decide
  have last : "/aws4_request".toList = '/' :: "aws4_request".toList := by decide
  have ending : '/' ∉ "aws4_request".toList := by decide
  have parts : (credential p).toList =
      ("AWS4-HMAC-SHA256 Credential=" ++ p.credentials.accessKey).toList ++
        '/' :: (p.day.toList ++ '/' :: (p.region.toList ++
          '/' :: (p.service.toList ++ '/' :: "aws4_request".toList))) := by
    unfold credential Purpose.scope
    simp only [String.toList_append, slash, last, List.append_assoc, List.cons_append,
      List.nil_append]
  rw [parts]
  simp only [Ip.splitAt_append_sep]
  rw [Ip.splitAt_of_notMem day, Ip.splitAt_of_notMem region, Ip.splitAt_of_notMem service,
    Ip.splitAt_of_notMem ending]
  rfl

theorem notMem_day : '/' ∉ p.day.toList := by
  have digit : '/' ∉ Text.digitChars := by decide
  have filled : ∀ n, '/' ∉ (Moment.digits 2 n).toList := by
    intro n
    rw [Moment.digits, String.toList_ofList]
    exact Text.notMem_padded digit 2 n
  have moment : '/' ∉ p.moment.toList := by
    have year := Text.notMem_toString_int digit (by decide) (Moment.ofSeconds p.time).year
    simp only [Purpose.moment, Moment.compact, String.toList_append, List.mem_append, year, filled]
    decide
  rw [Purpose.day, String.toList_ofList]
  exact fun mem => moment (List.mem_of_mem_take mem)

theorem notMem_hexText {c : Char} (h : c ∉ Text.digitChars) (bytes : ByteArray) :
    c ∉ (Digest.hexText bytes).toList := by
  rw [Digest.hexText, String.toList_ofList, List.mem_flatMap]
  rintro ⟨b, -, mem⟩
  exact Text.notMem_hex h 2 b.toNat mem

theorem notMem_signatureOf (d : Digest) (p : Purpose) (canonical : String) :
    ',' ∉ (signatureOf d p canonical).toList := notMem_hexText (by decide) _

theorem isPrefixOf_credential (p : Purpose) :
    "AWS4-HMAC-SHA256 Credential=".toList.isPrefixOf (credential p).toList = true := by
  unfold credential
  rw [List.isPrefixOf_iff_prefix]
  simp only [String.toList_append, List.append_assoc]
  exact List.prefix_append _ _

/-- A signature has no comma, so that the mark in front of it is the last one. -/
theorem cutLast?_signatureMark {signature : List Char} (hex : ',' ∉ signature)
    (front : List Char) :
    Text.cutLast? signatureMark (front ++ (signatureMark ++ signature)) =
      some (front, signature) := by
  refine Text.cutLast?_append (by decide) ?_ _
  exact fun inside => hex (inside.subset List.mem_cons_self)

/-- Names in lower case do not hold the mark in front of them. -/
theorem cutLast?_namesMark {names : List Char} (lower : 'S' ∉ names) (front : List Char) :
    Text.cutLast? namesMark (front ++ (namesMark ++ names)) = some (front, names) := by
  refine Text.cutLast?_append (by decide) ?_ _
  exact fun inside => lower (inside.subset (by decide))

/-- What is read from a value whose first part ends in the parts of a scope. -/
theorem read?_of_credential {day region service key : List Char} {keys : List (List Char)}
    {names signature : String}
    (split : (Ip.splitAt '/' (credential p).toList).reverse =
      "aws4_request".toList :: service :: region :: day :: key :: keys)
    (lower : 'S' ∉ names.toList) (hex : ',' ∉ signature.toList) :
    Stated.read? (authorization p names signature) =
      some ⟨String.ofList day, String.ofList region, String.ofList service, names, signature⟩ := by
  simp only [Stated.read?, toList_authorization, cutLast?_signatureMark hex,
    cutLast?_namesMark lower, isPrefixOf_credential, split, bind, Option.bind, guard, ↓reduceIte,
    pure, String.ofList_toList]

theorem read?_authorization {names signature : String} (region : '/' ∉ p.region.toList)
    (service : '/' ∉ p.service.toList) (lower : 'S' ∉ names.toList)
    (hex : ',' ∉ signature.toList) :
    Stated.read? (authorization p names signature) =
      some ⟨p.day, p.region, p.service, names, signature⟩ := by
  have keyed := Ip.splitAt_ne_nil '/'
    ("AWS4-HMAC-SHA256 Credential=" ++ p.credentials.accessKey).toList
  obtain ⟨key, keys, e⟩ := List.exists_cons_of_ne_nil (mt List.reverse_eq_nil_iff.mp keyed)
  have split : (Ip.splitAt '/' (credential p).toList).reverse =
      "aws4_request".toList :: p.service.toList :: p.region.toList :: p.day.toList ::
        key :: keys := by
    rw [splitAt_credential notMem_day region service, List.reverse_append, e]
    rfl
  simpa only [String.ofList_toList] using read?_of_credential split lower hex

/-! ## The names -/

/-- Sorted texts are in order. -/
theorem pairwise_mergeSort (texts : List String) :
    (texts.mergeSort fun a b => !(b < a)).Pairwise (· ≤ ·) := by
  have le_iff : ∀ a b : String, (!decide (b < a)) = true ↔ a ≤ b := by
    intro a b
    rw [Bool.not_eq_true', decide_eq_false_iff_not]
    exact Iff.rfl
  refine (List.pairwise_mergeSort ?_ ?_ texts).imp fun {a b} => (le_iff a b).mp
  · intro a b c
    rw [le_iff, le_iff, le_iff]
    exact String.le_trans
  · intro a b
    rw [Bool.or_eq_true_iff, le_iff, le_iff]
    exact String.le_total ..

/-- Sorting texts that are in disorder gives the texts in order. -/
theorem mergeSort_eq_of_perm {l sorted : List String} (perm : l.Perm sorted)
    (order : sorted.Pairwise (· ≤ ·)) : (l.mergeSort fun a b => !(b < a)) = sorted :=
  List.Perm.eq_of_pairwise (fun _ _ _ _ => String.le_antisymm) (pairwise_mergeSort l) order
    ((List.mergeSort_perm l _).trans perm)

/-- Each text once is no text twice. -/
theorem nodup_eraseDups (texts : List String) : texts.eraseDups.Nodup := by
  induction size : texts.length using Nat.strong_induction_on generalizing texts with
  | _ n ih =>
    cases texts with
    | nil => exact List.nodup_nil
    | cons first rest =>
      rw [List.eraseDups_cons, List.nodup_cons]
      constructor
      · rw [List.mem_eraseDups, List.mem_filter]
        simp
      · refine ih _ ?_ _ rfl
        have shorter := List.length_filter_le (fun text => !text == first) rest
        rw [List.length_cons] at size
        omega

theorem mem_sortedNames {h : Headers} {n : String} : n ∈ sortedNames h ↔ n ∈ names h := by
  rw [sortedNames, List.mem_mergeSort, List.mem_eraseDups]
  rfl

/-- The names are stated as they are trimmed, in order and each once. -/
theorem nameList_eq_trimmed (h : Headers) :
    nameList h =
      ";".intercalate (((names h).map Text.trim).eraseDups.mergeSort fun a b => !(b < a)) := by
  rw [names, List.map_map]
  rfl

theorem nameList_eq {h : Headers} (trimmed : ∀ n ∈ names h, Text.trim n = n) :
    nameList h = ";".intercalate (sortedNames h) := by
  have same : (names h).map Text.trim = names h :=
    (List.map_congr_left trimmed).trans (List.map_id' _)
  rw [nameList_eq_trimmed, same]
  rfl

/-- The list of names is read again as the names that are signed. -/
theorem splitAt_nameList {h : Headers} (plain : ∀ n ∈ names h, ';' ∉ n.toList ∧ Text.trim n = n)
    (some : names h ≠ []) :
    (Ip.splitAt ';' (nameList h).toList).map String.ofList = sortedNames h := by
  have sep : ";".toList = [';'] := by decide
  have parts : ∀ part ∈ (sortedNames h).map String.toList, ';' ∉ part := by
    intro part mem
    obtain ⟨n, named, rfl⟩ := List.mem_map.mp mem
    exact (plain n (mem_sortedNames.mp named)).1
  have there : (sortedNames h).map String.toList ≠ [] := by
    obtain ⟨n, mem⟩ := List.exists_mem_of_ne_nil _ some
    exact List.ne_nil_of_mem (List.mem_map_of_mem (mem_sortedNames.mpr mem))
  rw [nameList_eq fun n mem => (plain n mem).2, String.toList_intercalate, sep,
    Ip.splitAt_intercalate parts there, List.map_map]
  simp

theorem notMem_nameList {h : Headers} (plain : ∀ n ∈ names h, ';' ∉ n.toList ∧ Text.trim n = n)
    (lower : ∀ n ∈ names h, IsLower n) : 'S' ∉ (nameList h).toList := by
  rw [nameList_eq fun n mem => (plain n mem).2, String.toList_intercalate]
  refine Text.notMem_intercalate (by decide) ?_
  intro part mem
  obtain ⟨n, named, rfl⟩ := List.mem_map.mp mem
  intro capital
  exact absurd (lower n (mem_sortedNames.mp named) 'S' capital) (by decide)

end IndexExplorer.Signature
