import IndexExplorer.Proofs.Text.Percent
import IndexExplorer.Proofs.Url.Spelling

/-!
The host of an authority, as it is read for sending and as it stands in the parts of a URL.

* `mem_of_isV4`, `colon_mem_of_isV6`: what addresses are made of;
* `hostOf_eq_ok`: a host is an address or a name;
* `hostText_cases`: where the two readings find the host, in a sound authority whose bracket is
  closed once.
-/
namespace IndexExplorer

namespace Ip

theorem mem_of_isV4 {cs : List Char} {c : Char} (h : isV4 cs) (mem : c ∈ cs) :
    c.isDigit ∨ c = '.' := by
  simp only [isV4, Bool.and_eq_true, List.all_eq_true] at h
  by_cases digit : c.isDigit
  · exact .inl digit
  · right
    by_contra other
    have nowhere : c ∉ ['.'].intercalate (splitAt '.' cs) := by
      refine Text.notMem_intercalate (by simpa using other) fun part mem_part mem => ?_
      have octet := h.2 part mem_part
      simp only [isOctet, Bool.and_eq_true, List.all_eq_true] at octet
      exact digit (octet.1.1.1.2 c mem)
    rw [intercalate_splitAt] at nowhere
    exact nowhere mem

theorem colon_mem_of_isV6 {cs : List Char} (h : isV6 cs) : ':' ∈ cs := by
  by_contra none
  have address : ':' ∉ cs.takeWhile (· ≠ '%') := fun mem =>
    none ((List.takeWhile_prefix _).subset mem)
  simp only [isV6, isV6Plain, splitAt_of_notMem address, Bool.and_eq_true] at h
  simp at h

end Ip

namespace UrlParts

/-- The host in an authority, without user and brackets. -/
def hostIn (authority : List Char) : List Char :=
  let rest := afterLast '@' authority
  let bracketed := (before (· = '[') rest).2
  if bracketed.isEmpty then (cutAt ':' rest).1 else (cutAt ']' (bracketed.drop 1)).1

theorem host_eq (p : UrlParts) : p.host = String.ofList (hostIn p.authority.toList) := by
  simp only [host, hostPort, hostIn]
  split <;> rfl

variable {authority rest tail inner after : List Char}

theorem before_eq_of_head {p : Char → Bool} {c : Char} {cs : List Char} (h : p c) :
    before p (c :: cs) = ([], c :: cs) := by
  simp [before, h]

theorem bracketed_eq_nil_iff : (before (· = '[') rest).2 = [] ↔ '[' ∉ rest := by
  constructor
  · intro none mem
    have whole := before_append (· = '[') rest
    rw [none, List.append_nil] at whole
    rw [← whole] at mem
    simpa using not_of_mem_before mem
  · intro none
    rw [before_of_forall (eq_false_of_notMem none)]

theorem hostIn_subset (authority : List Char) : hostIn authority ⊆ afterLast '@' authority := by
  have cut_subset : ∀ (sep : Char) (cs : List Char), (cutAt sep cs).1 ⊆ cs := fun sep cs =>
    (List.takeWhile_prefix _).subset
  unfold hostIn
  dsimp only
  split
  · exact cut_subset ':' _
  · have behind : (before (· = '[') (afterLast '@' authority)).2.drop 1 ⊆ afterLast '@' authority :=
      ((List.drop_suffix 1 _).trans (List.dropWhile_suffix _)).subset
    exact List.Subset.trans (cut_subset ']' _) behind

theorem bracketFault_of_authorityFault
    (sound : authorityFault authority = none) : bracketFault authority = none := by
  unfold authorityFault at sound
  split at sound
  · cases sound
  · assumption

/-- An authority without brackets has nothing wrong with them. -/
theorem bracketFault_of_notMem (opened : '[' ∉ authority) (closed : ']' ∉ authority) :
    bracketFault authority = none := by
  simp [bracketFault, opened, closed]

/-- What a sound authority has in brackets: nothing stands before them but the user, nothing behind
them but a port, and inside is an address. -/
theorem of_bracketFault (sound : bracketFault authority = none)
    (opened : '[' ∈ afterLast '@' authority) :
    ']' ∈ authority ∧ ∃ tail, afterLast '@' authority = '[' :: tail ∧
      Stops (· = ':') (cutAt ']' tail).2 ∧ bracketedHostFault (cutAt ']' tail).1 = none := by
  have mem : '[' ∈ authority := (afterLast_suffix '@' authority).subset opened
  have whole := before_append (· = '[') (afterLast '@' authority)
  have stops := stops_before (· = '[') (afterLast '@' authority)
  have some : (before (· = '[') (afterLast '@' authority)).2 ≠ [] := fun none =>
    bracketed_eq_nil_iff.mp none opened
  simp only [bracketFault, List.contains_eq_mem, mem, decide_true] at sound
  generalize before (· = '[') (afterLast '@' authority) = cut at *
  obtain ⟨front, bracketed⟩ := cut
  cases bracketed with
  | nil => exact absurd rfl some
  | cons c tail =>
    obtain rfl : c = '[' := by simpa using stops c rfl
    split at sound
    · cases sound
    · rename_i both
      refine ⟨by simpa using both, tail, ?_⟩
      simp only [Bool.not_true, Bool.false_eq_true, ↓reduceIte, List.isEmpty_cons,
        List.drop_succ_cons, List.drop_zero] at sound
      split at sound
      · cases sound
      · rename_i nothing
        obtain rfl : front = [] := by simpa using nothing
        split at sound
        · cases sound
        · rename_i port
          refine ⟨whole.symm, ?_, sound⟩
          intro c head
          simp only [head] at port
          cases behind : (cutAt ']' tail).2 with
          | nil => simp [behind] at head
          | cons d rest => simpa [behind] using port

/-- An address in brackets, with a port or nothing behind it, is sound. -/
theorem bracketFault_of_bracketed
    (place : afterLast '@' authority = '[' :: (inner ++ ']' :: after)) (once : ']' ∉ inner)
    (port : Stops (· = ':') after) (address : bracketedHostFault inner = none) :
    bracketFault authority = none := by
  have inside := (afterLast_suffix '@' authority).subset
  have opened : '[' ∈ authority := inside (by simp [place])
  have closed : ']' ∈ authority := inside (by simp [place])
  have behind : (!after.isEmpty && after.head? != some ':') = false := by
    cases after with
    | nil => rfl
    | cons c rest =>
      have colon : c = ':' := by simpa using port c rfl
      simp [colon]
  simp [bracketFault, opened, closed, place, before_eq_of_head, cutAt_append once, behind, address]

theorem before_congr {p q : Char → Bool} {cs : List Char} (h : ∀ c ∈ cs, p c = q c) :
    before p cs = before q cs := by
  induction cs with
  | nil => rfl
  | cons c cs ih =>
    have first := h c List.mem_cons_self
    have later := ih fun d mem => h d (List.mem_cons_of_mem c mem)
    simp only [before, Prod.mk.injEq] at later
    simp [before, List.takeWhile_cons, List.dropWhile_cons, first, later]

end UrlParts

namespace Url

open Text UrlParts

/-- What an authority names as its host, and the port behind it. -/
def Closed (rest : List Char) : Prop :=
  rest.head? = some '[' → rest.count ']' = 1 ∨ (']' ∉ rest ∧ ':' ∉ rest)

variable {rest inner after : List Char}

theorem takeHost_of_open (nobody : '@' ∉ rest) (bare : ¬ (rest.head? = some '[' ∧ ']' ∈ rest)) :
    takeHost rest = before (· = ':') rest := by
  have same : ∀ c ∈ rest, (decide (c = ':') || decide (c = '@')) = decide (c = ':') := by
    intro c mem
    have other : c ≠ '@' := fun e => nobody (e ▸ mem)
    simp [other]
  simp only [takeHost, List.contains_eq_mem]
  rw [if_neg (by simpa using bare)]
  exact before_congr same

theorem takeHost_of_closed (once : ']' ∉ after) :
    takeHost ('[' :: (inner ++ ']' :: after)) = ('[' :: (inner ++ [']']), after) := by
  have last : afterLast ']' ('[' :: (inner ++ ']' :: after)) = after :=
    afterLast_append once ('[' :: inner)
  have whole : '[' :: (inner ++ ']' :: after) = '[' :: (inner ++ [']']) ++ after := by simp
  have count : ('[' :: (inner ++ ']' :: after)).length - after.length =
      ('[' :: (inner ++ [']'])).length := by
    rw [whole, List.length_append]
    omega
  simp only [takeHost, last, count]
  rw [if_pos (by simp), whole, List.take_left, List.drop_left]

theorem eq_of_brackets {cs : List Char} (head : cs.head? = some '[') (long : 1 < cs.length)
    (last : cs.getLast? = some ']') : cs = '[' :: ((cs.drop 1).dropLast ++ [']']) := by
  cases cs with
  | nil => cases head
  | cons c rest =>
    obtain rfl : c = '[' := by simpa using head
    cases rest with
    | nil => simp at long
    | cons d rest =>
      rw [List.getLast?_cons_cons] at last
      rw [List.drop_succ_cons, List.drop_zero, List.dropLast_append_getLast? ']' last]

/-- A host is an address, or else a name. -/
theorem hostOf_eq_ok {cs : List Char} {host : String} (h : hostOf cs = .ok host) :
    (cs = [] ∧ host = "") ∨
      (Ip.isV4 cs ∧ host = String.ofList cs) ∨
      (∃ inner, cs = '[' :: (inner ++ [']']) ∧ Ip.isV6 inner ∧ host = String.ofList inner) ∨
      ((∀ c ∈ cs, c.toNat < 0x80) ∧ (∀ inner, cs ≠ '[' :: (inner ++ [']'])) ∧
        host = Percent.encode inHost (String.ofList (cs.map Char.toLower))) := by
  unfold hostOf at h
  split at h
  · rename_i empty
    exact .inl ⟨List.isEmpty_iff.mp empty, (Except.ok.inj h).symm⟩
  split at h
  · split at h
    · rename_i v4
      exact .inr (.inl ⟨v4, (Except.ok.inj h).symm⟩)
    · cases h
  split at h
  · rename_i brackets
    simp only [Bool.and_eq_true, decide_eq_true_eq] at brackets
    dsimp only at h
    split at h
    · rename_i v6
      have shape := eq_of_brackets brackets.1.1 brackets.1.2 brackets.2
      exact .inr (.inr (.inl ⟨_, shape, v6, (Except.ok.inj h).symm⟩))
    · cases h
  · rename_i open_or_empty
    split at h
    · rename_i ascii
      refine .inr (.inr (.inr ⟨by simpa using ascii, ?_, (Except.ok.inj h).symm⟩))
      rintro inner rfl
      have last : ('[' :: (inner ++ [']'])).getLast? = some ']' := by
        rw [← List.cons_append, List.getLast?_concat]
      simp [last] at open_or_empty
    · cases h

theorem exists_of_count_eq_one {sep : Char} {cs : List Char} (once : cs.count sep = 1) :
    ∃ front back, cs = front ++ sep :: back ∧ sep ∉ front ∧ sep ∉ back := by
  have some : 0 < cs.count sep := by omega
  obtain ⟨front, back, rfl⟩ := List.append_of_mem (List.count_pos_iff.mp some)
  rw [List.count_append, List.count_cons_self] at once
  exact ⟨front, back, rfl, List.count_eq_zero.mp (by omega), List.count_eq_zero.mp (by omega)⟩

/-- Where the host of a sound authority is found: a name or an address without brackets by either
reading, an address in brackets without them when the URL is taken apart. A bracket that nothing
closes stays with the name for sending, and is dropped when the URL is taken apart. -/
theorem hostText_cases {authority : List Char} (sound : bracketFault authority = none)
    (closed : Closed (afterLast '@' authority)) :
    (hostText authority = hostIn authority ∧ '[' ∉ hostText authority) ∨
      (hostText authority = '[' :: (hostIn authority ++ [']']) ∧ ']' ∉ hostIn authority ∧
        bracketedHostFault (hostIn authority) = none) ∨
      (hostText authority = '[' :: hostIn authority ∧ ']' ∉ hostText authority) := by
  have nobody : '@' ∉ afterLast '@' authority := notMem_afterLast '@' authority
  by_cases opened : '[' ∈ afterLast '@' authority
  · obtain ⟨-, tail, rest, port, address⟩ := of_bracketFault sound opened
    have host : hostIn authority = (cutAt ']' tail).1 := by
      simp [hostIn, rest, before_eq_of_head]
    have starts : (afterLast '@' authority).head? = some '[' := by rw [rest]; rfl
    rcases closed starts with once | ⟨unclosed, portless⟩
    · right
      left
      have once : tail.count ']' = 1 := by simpa [rest] using once
      obtain ⟨inner, after, split, in_none, after_none⟩ := exists_of_count_eq_one once
      have cut : cutAt ']' tail = (inner, after) := by rw [split, cutAt_append in_none]
      have text : hostText authority = '[' :: (inner ++ [']']) := by
        show (takeHost (afterLast '@' authority)).1 = _
        rw [rest, split, takeHost_of_closed after_none]
      rw [cut] at host address
      exact ⟨by rw [text, host], by rwa [host], by rw [host, address]⟩
    · right
      right
      have tail_none : ']' ∉ tail := fun mem => unclosed (rest ▸ List.mem_cons_of_mem _ mem)
      have text : hostText authority = '[' :: tail := by
        show (takeHost (afterLast '@' authority)).1 = _
        rw [takeHost_of_open nobody fun h => unclosed h.2,
          before_of_forall (eq_false_of_notMem portless), rest]
      rw [cutAt_of_notMem tail_none] at host
      exact ⟨by rw [text, host], by rw [text, ← rest]; exact unclosed⟩
  · left
    have bare : ¬ ((afterLast '@' authority).head? = some '[' ∧ ']' ∈ afterLast '@' authority) :=
      fun h => opened (List.mem_of_head? h.1)
    have text : hostText authority = (before (· = ':') (afterLast '@' authority)).1 := by
      rw [← takeHost_of_open nobody bare]
      rfl
    have host : hostIn authority = (cutAt ':' (afterLast '@' authority)).1 := by
      simp [hostIn, bracketed_eq_nil_iff.mpr opened]
    refine ⟨by rw [text, host]; rfl, ?_⟩
    rw [text]
    intro mem
    exact opened ((List.takeWhile_prefix _).subset mem)

/-! ## Hosts in normal form -/

/-- An address that stands in brackets. -/
structure Bracketed (host : List Char) : Prop where
  colon : ':' ∈ host
  once : ']' ∉ host
  address : bracketedHostFault host = none

theorem encoded_of_isV4 {cs : List Char} (h : Ip.isV4 cs) : Percent.Encoded inHost cs := by
  intro c mem
  refine .inl ?_
  rcases Ip.mem_of_isV4 h mem with digit | rfl
  · have alphanumeric : c.isAlphanum := by simp [Char.isAlphanum, digit]
    simp [inHost, Percent.isUnreserved, alphanumeric]
  · decide

/-- The host that is read from a sound authority is the one that the parts of the URL have, or is
that one encoded and in lower case. -/
theorem host_of_hostText {authority : List Char} {host : String}
    (sound : bracketFault authority = none) (closed : Closed (afterLast '@' authority))
    (read : hostOf (hostText authority) = .ok host) (named : host ≠ "") :
    (host.toList = hostIn authority ∧ (Ip.isV4 host.toList ∨ Bracketed host.toList)) ∨
      ∃ cs, (cs = hostIn authority ∨ cs = '[' :: hostIn authority) ∧ (∀ c ∈ cs, c.toNat < 0x80) ∧
        host = Percent.encode inHost (String.ofList (cs.map Char.toLower)) := by
  have not_v4 : ∀ {cs}, '[' ∈ cs → ¬ Ip.isV4 cs := by
    intro cs mem v4
    rcases Ip.mem_of_isV4 v4 mem with digit | point
    · exact absurd digit (by decide)
    · exact absurd point (by decide)
  rcases hostOf_eq_ok read with ⟨-, empty⟩ | ⟨v4, rfl⟩ | ⟨inner, shape, v6, rfl⟩ |
    ⟨ascii, open_host, rfl⟩
  · exact absurd empty named
  · rcases hostText_cases sound closed with ⟨text, -⟩ | ⟨text, -⟩ | ⟨text, -⟩
    · rw [String.toList_ofList]
      exact .inl ⟨text, .inl v4⟩
    · exact absurd v4 (not_v4 (by simp [text]))
    · exact absurd v4 (not_v4 (by simp [text]))
  · rcases hostText_cases sound closed with ⟨-, opened⟩ | ⟨text, once, address⟩ | ⟨-, once⟩
    · exact absurd (by simp [shape]) opened
    · have same : inner = hostIn authority := by
        rw [shape, List.cons.injEq, List.append_left_inj] at text
        exact text.2
      subst same
      rw [String.toList_ofList]
      exact .inl ⟨rfl, .inr ⟨Ip.colon_mem_of_isV6 v6, once, address⟩⟩
    · exact absurd (by simp [shape]) once
  · right
    rcases hostText_cases sound closed with ⟨text, -⟩ | ⟨text, -⟩ | ⟨text, -⟩
    · exact ⟨_, .inl text, ascii, rfl⟩
    · exact absurd text (open_host _)
    · exact ⟨_, .inr text, ascii, rfl⟩

end Url

end IndexExplorer
