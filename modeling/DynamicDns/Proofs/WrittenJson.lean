import DynamicDns.Proofs.Field
import DynamicDns.Proofs.Members
import DynamicDns.Proofs.WrittenNumber

/-!
# Written JSON values

A value that is written is read up to its end, whatever follows it, and its text has its structure:
its items and members one for one, in their order, its strings as they are, and its numbers as what their
numerals are read as. So a value that was read once is read again from its own text exactly if all of its
numbers are.
-/

namespace DynamicDns.Json

open DynamicDns.Result

/-! ## The tree of a written value -/

mutual

/-- What the text of a value is read as. -/
def toTree : Json → Tree
  | .null => .null
  | .bool b => .bool b
  | .number n => .number n.reread
  | .string s => .string (some s)
  | .array items => .array (itemTrees items) .closed
  | .object members => .object (memberTrees members) .closed

def itemTrees : List Json → List Tree
  | [] => []
  | item :: rest => toTree item :: itemTrees rest

def memberTrees : List (String × Json) → List Tree.Member
  | [] => []
  | (key, v) :: rest => (some key, toTree v) :: memberTrees rest

end

theorem itemTrees_eq_map (items : List Json) : itemTrees items = items.map toTree := by
  induction items with
  | nil => rfl
  | cons item rest ih => rw [itemTrees, ih, List.map_cons]

theorem memberTrees_eq_map (members : Members) :
    memberTrees members = members.map fun m ↦ (some m.1, m.2.toTree) := by
  induction members with
  | nil => rfl
  | cons member rest ih => rw [memberTrees, ih, List.map_cons]

theorem map_fst_memberTrees (members : Members) :
    (memberTrees members).map Prod.fst = (keys members).map some := by
  rw [memberTrees_eq_map, keys, List.map_map, List.map_map]
  rfl

/-! ## Reading what is written -/

namespace Tree

/-- Goes on after a step with the tokens that are left. -/
def Step.resume (tokens : List Token) : Step → Tree × List Token
  | .go expected frames => readFrom expected frames tokens
  | .done v => (v, tokens)
  | .broke v => (v, [])

theorem readFrom_cons (expected : Expected) (frames : List Frame) (token : Token)
    (rest : List Token) :
    readFrom expected frames (token :: rest) = (step expected frames token).resume rest := by
  rw [readFrom]
  cases step expected frames token <;> rfl

/-- Where a value may begin. -/
inductive AtValue : Expected → List Frame → Prop where
  | value (frames : List Frame) : AtValue .value frames
  | firstItem (before : List Tree) (outer : List Frame) : AtValue .firstItem (.array before :: outer)

variable {expected : Expected} {frames : List Frame} {rest : List Char}

theorem step_eq_begin (h : AtValue expected frames) {token : Token} (htoken : token ≠ .closeArray) :
    step expected frames token = begin frames token := by
  cases h with
  | value => rfl
  | firstItem => cases token <;> first | rfl | exact absurd rfl htoken

/-- A token that is a value of its own. -/
theorem readFrom_tokens (h : AtValue expected frames) {text : List Char} {token : Token} {v : Tree}
    (htokens : tokens (text ++ rest) = token :: tokens rest) (htoken : token ≠ .closeArray)
    (hbegin : begin frames token = complete v frames) :
    readFrom expected frames (tokens (text ++ rest)) = (complete v frames).resume (tokens rest) := by
  rw [htokens, readFrom_cons, step_eq_begin h htoken, hbegin]

end Tree

open DynamicDns.Json.Tree

theorem readFrom_openArray {expected : Expected} {frames : List Frame} (h : AtValue expected frames)
    (s : List Char) : readFrom expected frames (tokens ('[' :: s)) =
      readFrom .firstItem (.array [] :: frames) (tokens s) := by
  rw [tokens_openArray, readFrom_cons, step_eq_begin h (by decide)]
  rfl

theorem readFrom_openObject {expected : Expected} {frames : List Frame} (h : AtValue expected frames)
    (s : List Char) : readFrom expected frames (tokens ('{' :: s)) =
      readFrom (.key true) (.object [] :: frames) (tokens s) := by
  rw [tokens_openObject, readFrom_cons, step_eq_begin h (by decide)]
  rfl

/-- A key and its colon are read up to the value. -/
theorem readFrom_key (first : Bool) (before : List Member) (frames : List Frame) (key : String)
    (s : List Char) :
    readFrom (.key first) (.object before :: frames) (tokens (stringChars key ++ ':' :: s)) =
      readFrom .value (.member before (some key) :: frames) (tokens s) := by
  rw [tokens_stringChars, readFrom_cons]
  -- The step does not depend on whether it is the first key.
  have hstep : step (.key first) (.object before :: frames) (.string (some key)) =
      .go .colon (.member before (some key) :: frames) := by
    cases first <;> rfl
  rw [hstep, Step.resume, tokens_colon, readFrom_cons]
  rfl

/-- What comes after an item or a member ends a number. -/
theorem endsNumber_itemsChars (items : List Json) (rest : List Char) :
    EndsNumber (itemsChars items ++ rest) := by
  cases items with
  | nil => exact endsNumber_cons (.inr (.inl rfl)) rest
  | cons item items => exact endsNumber_cons (.inl rfl) _

theorem endsNumber_membersChars (members : Members) (rest : List Char) :
    EndsNumber (membersChars members ++ rest) := by
  cases members with
  | nil => exact endsNumber_cons (.inr (.inr rfl)) rest
  | cons member members => exact endsNumber_cons (.inl rfl) _

mutual

/-- A written value is read where a value may begin. -/
theorem readFrom_chars (v : Json) {expected : Expected} {frames : List Frame} {rest : List Char}
    (h : AtValue expected frames) (hrest : EndsNumber rest) :
    readFrom expected frames (tokens (chars v ++ rest)) =
      (complete v.toTree frames).resume (tokens rest) := by
  match v with
  | .null => exact readFrom_tokens h (tokens_of_token? rfl rfl) (by decide) rfl
  | .bool true => exact readFrom_tokens h (tokens_of_token? rfl rfl) (by decide) rfl
  | .bool false => exact readFrom_tokens h (tokens_of_token? rfl rfl) (by decide) rfl
  | .number n => exact readFrom_tokens h (tokens_numberChars n hrest) (by simp) rfl
  | .string s => exact readFrom_tokens h (tokens_stringChars s rest) (by simp) rfl
  | .array [] =>
    change readFrom expected frames (tokens ('[' :: ']' :: rest)) = _
    rw [readFrom_openArray h, tokens_closeArray, readFrom_cons]
    rfl
  | .array (item :: items) =>
    rw [chars, List.append_assoc, List.cons_append, readFrom_openArray h,
      readFrom_chars item (.firstItem [] frames) (endsNumber_itemsChars items rest)]
    exact readFrom_itemsChars items [item.toTree] frames rest
  | .object [] =>
    change readFrom expected frames (tokens ('{' :: '}' :: rest)) = _
    rw [readFrom_openObject h, tokens_closeObject, readFrom_cons]
    rfl
  | .object ((key, v) :: members) =>
    have hcut : chars (.object ((key, v) :: members)) ++ rest =
        '{' :: (stringChars key ++ ':' :: (chars v ++ (membersChars members ++ rest))) := by
      simp [chars]
    rw [hcut, readFrom_openObject h, readFrom_key,
      readFrom_chars v (.value _) (endsNumber_membersChars members rest)]
    exact readFrom_membersChars members [(some key, v.toTree)] frames rest

theorem readFrom_itemsChars (items : List Json) (before : List Tree) (frames : List Frame)
    (rest : List Char) :
    readFrom .separator (.array before :: frames) (tokens (itemsChars items ++ rest)) =
      (complete (.array (before.reverse ++ itemTrees items) .closed) frames).resume (tokens rest) := by
  match items with
  | [] =>
    change readFrom .separator _ (tokens (']' :: rest)) = _
    rw [tokens_closeArray, readFrom_cons, itemTrees, List.append_nil]
    rfl
  | item :: items =>
    have hcut : itemsChars (item :: items) ++ rest =
        ',' :: (chars item ++ (itemsChars items ++ rest)) := by
      simp [itemsChars]
    have hread := readFrom_itemsChars items (item.toTree :: before) frames rest
    rw [List.reverse_cons, List.append_assoc] at hread
    rw [hcut, tokens_comma, readFrom_cons]
    exact (readFrom_chars item (.value _) (endsNumber_itemsChars items rest)).trans hread

theorem readFrom_membersChars (members : Members) (before : List Member) (frames : List Frame)
    (rest : List Char) :
    readFrom .separator (.object before :: frames) (tokens (membersChars members ++ rest)) =
      (complete (.object (before.reverse ++ memberTrees members) .closed) frames).resume
        (tokens rest) := by
  match members with
  | [] =>
    change readFrom .separator _ (tokens ('}' :: rest)) = _
    rw [tokens_closeObject, readFrom_cons, memberTrees, List.append_nil]
    rfl
  | (key, v) :: members =>
    have hcut : membersChars ((key, v) :: members) ++ rest =
        ',' :: (stringChars key ++ ':' :: (chars v ++ (membersChars members ++ rest))) := by
      simp [membersChars]
    have hread := readFrom_membersChars members ((some key, v.toTree) :: before) frames rest
    rw [List.reverse_cons, List.append_assoc] at hread
    rw [hcut, tokens_comma, readFrom_cons]
    change readFrom (.key false) _ _ = _
    rw [readFrom_key, readFrom_chars v (.value _) (endsNumber_membersChars members rest)]
    exact hread

end

theorem read_text (v : Json) : Tree.read (tokens v.text.toList) = (v.toTree, []) := by
  have hread := readFrom_chars v (.value []) endsNumber_nil
  rw [List.append_nil, tokens] at hread
  rw [text, String.toList_ofList]
  exact hread

/-- The text of a value is decoded as its tree. -/
theorem decodeText_text {α : Type} (decode : Tree → Decoded α) (v : Json) :
    decodeText decode v.text = decode v.toTree := by
  simp only [decodeText, read_text]
  cases decode v.toTree <;> rfl

mutual

/-- The text of a value is well formed to its end. -/
theorem isComplete_toTree (v : Json) : v.toTree.isComplete = true := by
  match v with
  | .null | .bool _ | .number _ | .string _ => rfl
  | .array items => exact areComplete_itemTrees items
  | .object members => exact membersComplete_memberTrees members

theorem areComplete_itemTrees (items : List Json) : areComplete (itemTrees items) = true := by
  match items with
  | [] => rfl
  | item :: rest => exact Bool.and_eq_true_iff.2 ⟨isComplete_toTree item, areComplete_itemTrees rest⟩

theorem membersComplete_memberTrees (members : Members) :
    membersComplete (memberTrees members) = true := by
  match members with
  | [] => rfl
  | (_, v) :: rest =>
    exact Bool.and_eq_true_iff.2 ⟨isComplete_toTree v, membersComplete_memberTrees rest⟩

end

/-! ## Reading a value again -/

mutual

/-- The numbers in a value, in the order of its text. -/
def numbers : Json → List Num
  | .number n => [n]
  | .array items => itemNumbers items
  | .object members => memberNumbers members
  | _ => []

def itemNumbers : List Json → List Num
  | [] => []
  | item :: rest => numbers item ++ itemNumbers rest

def memberNumbers : List (String × Json) → List Num
  | [] => []
  | (_, v) :: rest => numbers v ++ memberNumbers rest

end

theorem forall_mem_itemNumbers {P : Num → Prop} {items : List Json} :
    (∀ n ∈ itemNumbers items, P n) ↔ ∀ item ∈ items, ∀ n ∈ item.numbers, P n := by
  induction items with
  | nil => simp [itemNumbers]
  | cons item rest ih => rw [itemNumbers, List.forall_mem_append, List.forall_mem_cons, ih]

theorem forall_mem_memberNumbers {P : Num → Prop} {members : Members} :
    (∀ n ∈ memberNumbers members, P n) ↔ ∀ m ∈ members, ∀ n ∈ m.2.numbers, P n := by
  induction members with
  | nil => simp [memberNumbers]
  | cons member rest ih => rw [memberNumbers, List.forall_mem_append, List.forall_mem_cons, ih]

namespace Tree

theorem values_eq_decodeItems (depth : Nat) (items : List Tree) :
    values depth items = decodeItems (value depth) items := by
  induction items with
  | nil => rw [values, decodeItems]
  | cons t rest ih =>
    rw [values, decodeItems, ih]
    cases value depth t with
    | error e => rfl
    | ok v => cases decodeItems (value depth) rest <;> rfl

/-- Items are read one for one. -/
theorem values_eq_ok_iff {depth : Nat} {items : List Tree} {all : List Json} :
    values depth items = .ok all ↔ List.Forall₂ (fun t v ↦ value depth t = .ok v) items all := by
  rw [values_eq_decodeItems, decodeItems_eq_ok_iff]

/-- Members are read one for one, each with its key. -/
theorem memberValues_eq_ok_iff {depth : Nat} {members : List Member} {all : Members} :
    memberValues depth members = .ok all ↔
      List.Forall₂ (fun m p ↦ m.1 = some p.1 ∧ value depth m.2 = .ok p.2) members all := by
  induction members generalizing all with
  | nil =>
    rw [memberValues, List.forall₂_nil_left_iff, Except.ok.injEq, eq_comm]
  | cons m rest ih =>
    obtain ⟨key, t⟩ := m
    rw [List.forall₂_cons_left_iff]
    simp only [← ih]
    cases key with
    | none =>
      rw [memberValues]
      exact ⟨nofun, nofun⟩
    | some key =>
      rw [memberValues, bind_both_eq_ok_iff]
      constructor
      · rintro ⟨v, later, hv, hlater, rfl⟩
        exact ⟨(key, v), later, ⟨rfl, hv⟩, hlater, rfl⟩
      · rintro ⟨⟨key', v⟩, later, ⟨hkey, hv⟩, hlater, rfl⟩
        cases hkey
        exact ⟨v, later, hv, hlater, rfl⟩

theorem value_eq_array {depth : Nat} {t : Tree} {all : List Json}
    (h : value depth t = .ok (.array all)) :
    ∃ inner items, depth = inner + 1 ∧ t = .array items .closed ∧
      List.Forall₂ (fun t v ↦ value inner t = .ok v) items all := by
  unfold value at h
  split at h
  case h_5 inner items ending =>
    obtain ⟨all', hall, h⟩ := bind_eq_ok_iff.1 h
    obtain ⟨_, hending, h⟩ := bind_eq_ok_iff.1 h
    cases h
    cases checkClosed_eq_ok hending
    exact ⟨inner, items, rfl, rfl, values_eq_ok_iff.1 hall⟩
  case h_6 =>
    obtain ⟨all', -, h⟩ := bind_eq_ok_iff.1 h
    obtain ⟨_, -, h⟩ := bind_eq_ok_iff.1 h
    cases h
  all_goals cases h

theorem value_eq_object {depth : Nat} {t : Tree} {all : Members}
    (h : value depth t = .ok (.object all)) :
    ∃ inner members read, depth = inner + 1 ∧ t = .object members .closed ∧ all = ofMembers read ∧
      List.Forall₂ (fun m p ↦ m.1 = some p.1 ∧ value inner m.2 = .ok p.2) members read := by
  unfold value at h
  split at h
  case h_6 inner members ending =>
    obtain ⟨read, hread, h⟩ := bind_eq_ok_iff.1 h
    obtain ⟨_, hending, h⟩ := bind_eq_ok_iff.1 h
    cases h
    cases checkClosed_eq_ok hending
    exact ⟨inner, members, read, rfl, rfl, rfl, memberValues_eq_ok_iff.1 hread⟩
  case h_5 =>
    obtain ⟨all', -, h⟩ := bind_eq_ok_iff.1 h
    obtain ⟨_, -, h⟩ := bind_eq_ok_iff.1 h
    cases h
  all_goals cases h

variable {depth : Nat}

theorem value_array_iff {items : List Json} :
    value (depth + 1) (toTree (.array items)) = .ok (.array items) ↔
      ∀ item ∈ items, value depth item.toTree = .ok item := by
  have hsame : List.Forall₂ (fun t v ↦ value depth t = .ok v) (itemTrees items) items ↔
      ∀ item ∈ items, value depth item.toTree = .ok item := by
    rw [itemTrees_eq_map, List.forall₂_map_left_iff, List.forall₂_same]
  rw [← hsame]
  constructor
  · intro h
    obtain ⟨inner, trees, hdepth, htrees, hitems⟩ := value_eq_array h
    cases hdepth
    cases htrees
    exact hitems
  · intro h
    rw [toTree, value]
    exact bind_eq_ok_iff.2 ⟨items, values_eq_ok_iff.2 h, rfl⟩

theorem value_object_iff {members : Members} (hsorted : IsSorted members) :
    value (depth + 1) (toTree (.object members)) = .ok (.object members) ↔
      ∀ m ∈ members, value depth m.2.toTree = .ok m.2 := by
  constructor
  · intro h
    obtain ⟨inner, trees, read, hdepth, htrees, hread, hmembers⟩ := value_eq_object h
    cases hdepth
    cases htrees
    rw [memberTrees_eq_map, List.forall₂_map_left_iff] at hmembers
    have hkeys := keys_eq_of_forall₂ (hmembers.imp fun m p hm ↦ Option.some.inj hm.1)
    rw [ofMembers_of_isSorted (hsorted.of_keys_eq hkeys.symm)] at hread
    subst hread
    exact fun m hm ↦ (List.forall₂_same.1 hmembers m hm).2
  · intro h
    rw [toTree, value]
    refine bind_eq_ok_iff.2 ⟨members, memberValues_eq_ok_iff.2 ?_, ?_⟩
    · rw [memberTrees_eq_map, List.forall₂_map_left_iff, List.forall₂_same]
      exact fun m hm ↦ ⟨rfl, h m hm⟩
    · rw [ofMembers_of_isSorted hsorted]
      rfl

/-- A value that was read is read again from its own text exactly if all of its numbers are. -/
theorem value_toTree_iff {t : Tree} {v : Json} (h : value depth t = .ok v) :
    value depth v.toTree = .ok v ↔ ∀ n ∈ v.numbers, n.IsReadBack := by
  induction depth using Nat.strongRecOn generalizing t v with
  | _ depth ih =>
    cases v with
    | null => simp [toTree, value, numbers]
    | bool b => simp [toTree, value, numbers]
    | string s => simp [toTree, value, numbers]
    | number n =>
      simp only [toTree, numbers, List.mem_singleton, forall_eq, Num.IsReadBack]
      cases n.reread with
      | none => simp [value]
      | some n' => simp [value]
    | array all =>
      obtain ⟨inner, items, rfl, -, hitems⟩ := value_eq_array h
      rw [value_array_iff, numbers, forall_mem_itemNumbers]
      refine forall₂_congr fun item hitem ↦ ?_
      obtain ⟨t, -, ht⟩ := exists_mem_of_forall₂ hitems.flip hitem
      exact ih inner (Nat.lt_succ_self inner) ht
    | object all =>
      obtain ⟨inner, members, read, rfl, -, rfl, hmembers⟩ := value_eq_object h
      rw [value_object_iff (isSorted_ofMembers read), numbers, forall_mem_memberNumbers]
      refine forall₂_congr fun m hm ↦ ?_
      obtain ⟨t, -, ht⟩ := exists_mem_of_forall₂ hmembers.flip (mem_of_mem_ofMembers hm)
      exact ih inner (Nat.lt_succ_self inner) ht.2

end Tree

end DynamicDns.Json
