import BoundQuery.Proofs.OrderlySession
import Mathlib.Data.Set.Card

/-!
An index as a relation between names and keys. What it answers follows from the requests that were
made of it: a name has the keys that were put under it, in whatever case it was spelled, and that
have not been taken, forgotten or cleared away since.
-/

set_option autoImplicit false

namespace BoundQuery

theorem utf8EncodeChar_cases (char : Char) :
    (char.toNat < 128 ∧ String.utf8EncodeChar char = [.ofNat char.toNat]) ∨
      (128 ≤ char.toNat ∧ char.toNat < 2048 ∧ String.utf8EncodeChar char =
        [.ofNat (char.toNat / 64 % 32 + 192), .ofNat (char.toNat % 64 + 128)]) ∨
      (2048 ≤ char.toNat ∧ char.toNat < 65536 ∧ String.utf8EncodeChar char =
        [.ofNat (char.toNat / 4096 % 16 + 224), .ofNat (char.toNat / 64 % 64 + 128),
          .ofNat (char.toNat % 64 + 128)]) ∨
      (65536 ≤ char.toNat ∧ char.toNat < 1114112 ∧ String.utf8EncodeChar char =
        [.ofNat (char.toNat / 262144 % 8 + 240), .ofNat (char.toNat / 4096 % 64 + 128),
          .ofNat (char.toNat / 64 % 64 + 128), .ofNat (char.toNat % 64 + 128)]) := by
  have bound : char.toNat < 1114112 := by
    have valid : char.toNat < 55296 ∨ (57343 < char.toNat ∧ char.toNat < 1114112) := char.valid
    omega
  unfold String.utf8EncodeChar
  simp only [Char.toNat_val]
  split
  · exact .inl ⟨by omega, rfl⟩
  · split
    · exact .inr (.inl ⟨by omega, by omega, rfl⟩)
    · split
      · exact .inr (.inr (.inl ⟨by omega, by omega, rfl⟩))
      · exact .inr (.inr (.inr ⟨by omega, bound, rfl⟩))

/-- The bytes of two characters differ somewhere, and where they first do, they are in the order of
the characters, whatever follows. -/
theorem utf8EncodeChar_lt {first second : Char} (before : first < second)
    (front back : List UInt8) :
    String.utf8EncodeChar first ++ front < String.utf8EncodeChar second ++ back := by
  have codes : first.toNat < second.toNat := before
  have byte {low high : Nat} (small : low < 256) (large : high < 256) {rest others : List UInt8} :
      UInt8.ofNat low :: rest < UInt8.ofNat high :: others ↔
        low < high ∨ (low = high ∧ rest < others) := by
    rw [List.cons_lt_cons_iff, UInt8.lt_iff_toNat_lt, ← UInt8.toNat_inj,
      UInt8.toNat_ofNat_of_lt' small, UInt8.toNat_ofNat_of_lt' large]
  have digit (low high : Nat) :
      low < high → low / 64 < high / 64 ∨ (low / 64 = high / 64 ∧ low % 64 < high % 64) := by
    omega
  have last := digit first.toNat second.toNat
  have middle := digit (first.toNat / 64) (second.toNat / 64)
  have top := digit (first.toNat / 4096) (second.toNat / 4096)
  simp only [Nat.div_div_eq_div_mul, Nat.reduceMul] at middle top
  have bound : second.toNat < 1114112 := by
    rcases utf8EncodeChar_cases second with _ | _ | _ | _ <;> omega
  have lead (code : Nat) (small : code < 1114112) : code / 262144 % 8 = code / 262144 := by omega
  have one := lead first.toNat (by omega)
  have other := lead second.toNat bound
  -- The first byte tells how many there are; of as many, the digits to base 64 decide.
  rcases utf8EncodeChar_cases first with ⟨_, left⟩ | ⟨_, _, left⟩ | ⟨_, _, left⟩ | ⟨_, _, left⟩ <;>
    rcases utf8EncodeChar_cases second with
      ⟨_, right⟩ | ⟨_, _, right⟩ | ⟨_, _, right⟩ | ⟨_, _, right⟩ <;>
    · rw [left, right]
      simp (disch := omega) only [List.cons_append, List.nil_append, byte]
      omega

namespace Text

def bytes (text : String) : List UInt8 :=
  text.toUTF8.data.toList

theorem bytes_eq (text : String) : bytes text = text.toList.flatMap String.utf8EncodeChar := by
  unfold bytes String.toUTF8
  rw [← String.ofList_toList (s := text), String.toByteArray_ofList, String.toList_ofList]
  exact List.toList_data_toByteArray

theorem flatMap_utf8EncodeChar_lt {front : List Char} :
    ∀ {back : List Char}, front < back →
      front.flatMap String.utf8EncodeChar < back.flatMap String.utf8EncodeChar := by
  induction front with
  | nil =>
      intro back before
      cases back with
      | nil => exact absurd before (List.lt_irrefl [])
      | cons char rest =>
          rw [List.flatMap_cons, List.flatMap_nil]
          cases encoded : String.utf8EncodeChar char with
          | nil => exact absurd encoded (String.utf8EncodeChar_ne_nil)
          | cons byte bytes => exact List.nil_lt_cons _ _
  | cons first more ih =>
      intro back before
      cases back with
      | nil => exact absurd before (List.not_lt_nil _)
      | cons second rest =>
          rw [List.flatMap_cons, List.flatMap_cons]
          rcases List.cons_lt_cons_iff.mp before with earlier | ⟨rfl, later⟩
          · exact utf8EncodeChar_lt earlier _ _
          · exact List.append_left_lt (ih later)

theorem bytes_lt {first second : String} (before : first < second) :
    bytes first < bytes second := by
  rw [bytes_eq, bytes_eq]
  exact flatMap_utf8EncodeChar_lt (String.lt_iff.mp before)

end Text

namespace KeyIndex

structure WellKept (index : KeyIndex) : Prop where
  distinct : index.Distinct
  lowered : ∀ entry ∈ index.entries, ∃ name, Text.lower name = entry.1
  sorted : ∀ entry ∈ index.entries, entry.2.Pairwise (· < ·)
  inhabited : ∀ entry ∈ index.entries, entry.2 ≠ []

variable {index : KeyIndex}

theorem mem_insertUnder_cases {name key : String} {entry : String × List String}
    {entries : List (String × List String)} (member : entry ∈ insertUnder name key entries) :
    entry ∈ entries ∨ entry = (name, [key]) ∨
      ∃ keys, (name, keys) ∈ entries ∧ entry = (name, insertKey key keys) := by
  induction entries with
  | nil => exact .inr (.inl (List.mem_singleton.mp member))
  | cons first rest ih =>
      obtain ⟨own, keys⟩ := first
      unfold insertUnder at member
      by_cases same : (name == own) = true
      · rw [if_pos same] at member
        rcases List.mem_cons.mp member with here | there
        · obtain rfl := beq_iff_eq.mp same
          exact .inr (.inr ⟨keys, List.mem_cons_self, here⟩)
        · exact .inl (List.mem_cons_of_mem _ there)
      · rw [if_neg same] at member
        rcases List.mem_cons.mp member with here | there
        · exact .inl (here ▸ List.mem_cons_self)
        · rcases ih there with kept | new | ⟨keys, stored, changed⟩
          · exact .inl (List.mem_cons_of_mem _ kept)
          · exact .inr (.inl new)
          · exact .inr (.inr ⟨keys, List.mem_cons_of_mem _ stored, changed⟩)

theorem insertKey_ne_nil (key : String) (keys : List String) : insertKey key keys ≠ [] :=
  List.ne_nil_of_mem (mem_insertKey.mpr (.inl rfl))

namespace WellKept

theorem empty : WellKept {} where
  distinct := Distinct.empty
  lowered := by simp
  sorted := by simp
  inhabited := by simp

theorem insert (kept : index.WellKept) (name key : String) : (index.insert name key).WellKept where
  distinct := kept.distinct.insert name key
  lowered := by
    intro entry member
    rcases mem_insertUnder_cases member with old | rfl | ⟨keys, _, rfl⟩
    · exact kept.lowered entry old
    · exact ⟨name, rfl⟩
    · exact ⟨name, rfl⟩
  sorted := by
    intro entry member
    rcases mem_insertUnder_cases member with old | rfl | ⟨keys, stored, rfl⟩
    · exact kept.sorted entry old
    · exact List.pairwise_singleton _ key
    · exact insertKey_sorted key (kept.sorted _ stored)
  inhabited := by
    intro entry member
    rcases mem_insertUnder_cases member with old | rfl | ⟨keys, _, rfl⟩
    · exact kept.inhabited entry old
    · exact List.cons_ne_nil key []
    · exact insertKey_ne_nil key keys

theorem take (kept : index.WellKept) (name : String) : (index.take name).2.WellKept where
  distinct := kept.distinct.take name
  lowered entry member := kept.lowered entry (List.mem_filter.mp member).1
  sorted entry member := kept.sorted entry (List.mem_filter.mp member).1
  inhabited entry member := kept.inhabited entry (List.mem_filter.mp member).1

theorem forgetKey (kept : index.WellKept) (key : String) : (index.forgetKey key).WellKept where
  distinct := kept.distinct.forgetKey key
  lowered := by
    intro entry member
    obtain ⟨old, stored, rfl⟩ := List.mem_map.mp (List.mem_filter.mp member).1
    exact kept.lowered old stored
  sorted := by
    intro entry member
    obtain ⟨old, stored, rfl⟩ := List.mem_map.mp (List.mem_filter.mp member).1
    exact (kept.sorted old stored).filter _
  inhabited entry member := by simpa using (List.mem_filter.mp member).2

theorem after (kept : index.WellKept) (call : IndexCall) : (index.after call).WellKept := by
  cases call with
  | insert name key => exact kept.insert name key
  | take name => exact kept.take name
  | forget key => exact kept.forgetKey key
  | clear => exact empty

theorem keysFor_sorted (kept : index.WellKept) (name : String) :
    (index.keysFor name).Pairwise (· < ·) := by
  unfold keysFor
  cases found : index.entries.lookup (Text.lower name) with
  | none => exact List.Pairwise.nil
  | some keys => exact kept.sorted _ (mem_of_lookup found)

theorem mem_names_iff (kept : index.WellKept) {lowered : String} :
    lowered ∈ index.entries.map Prod.fst ↔
      ∃ name key, Text.lower name = lowered ∧ key ∈ index.keysFor name := by
  constructor
  · intro member
    obtain ⟨⟨own, keys⟩, stored, rfl⟩ := List.mem_map.mp member
    obtain ⟨name, same⟩ := kept.lowered _ stored
    obtain ⟨key, listed⟩ := List.exists_mem_of_ne_nil keys (kept.inhabited _ stored)
    refine ⟨name, key, same, ?_⟩
    unfold keysFor
    rw [same, lookup_of_mem kept.distinct stored]
    exact listed
  · rintro ⟨name, key, rfl, member⟩
    obtain ⟨keys, stored, _⟩ := exists_of_mem_keysFor member
    exact List.mem_map_of_mem stored

theorem size_eq (kept : index.WellKept) :
    {lowered | ∃ name key, Text.lower name = lowered ∧ key ∈ index.keysFor name}.encard =
      index.size := by
  have names : {lowered | ∃ name key, Text.lower name = lowered ∧ key ∈ index.keysFor name} =
      ((index.entries.map Prod.fst).toFinset : Set String) := by
    ext lowered
    rw [Set.mem_ofPred_eq, ← kept.mem_names_iff, Finset.mem_coe, List.mem_toFinset]
  rw [names, Set.encard_coe_eq_coe_finsetCard, List.toFinset_card_of_nodup kept.distinct,
    List.length_map]
  rfl

theorem isEmpty_iff (kept : index.WellKept) :
    index.isEmpty = true ↔ ∀ name key, key ∉ index.keysFor name := by
  unfold isEmpty
  rw [List.isEmpty_iff, ← List.map_eq_nil_iff (f := Prod.fst), List.eq_nil_iff_forall_not_mem]
  simp only [kept.mem_names_iff]
  constructor
  · exact fun none name key member => none _ ⟨name, key, rfl, member⟩
  · rintro none lowered ⟨name, key, _, member⟩
    exact none name key member

end WellKept

end KeyIndex

/-! ### Requests -/

/-- An index is changed, or asked for the keys of a name. -/
inductive IndexRequest where
  | change (call : IndexCall)
  | keysFor (name : String)

/-- The request puts the key under the name, in some spelling of it. -/
def IndexRequest.Relates (name key : String) : IndexRequest → Prop
  | .change (.insert other own) => Text.lower other = Text.lower name ∧ own = key
  | _ => False

/-- The request takes the name in some spelling, or forgets the key, or clears everything. -/
def IndexRequest.Parts (name key : String) : IndexRequest → Prop
  | .change (.take other) => Text.lower other = Text.lower name
  | .change (.forget own) => own = key
  | .change .clear => True
  | _ => False

/-- One of the requests, in the order in which they were made, has put the key under the name, and
none behind it has parted the two. -/
def RelatedBy (requests : List IndexRequest) (name key : String) : Prop :=
  ∃ before request after, requests = before ++ request :: after ∧ request.Relates name key ∧
    ∀ later ∈ after, ¬later.Parts name key

theorem relatedBy_concat {requests : List IndexRequest} {request : IndexRequest}
    {name key : String} :
    RelatedBy (requests ++ [request]) name key ↔
      request.Relates name key ∨ (RelatedBy requests name key ∧ ¬request.Parts name key) := by
  constructor
  · rintro ⟨before, own, after, split, relates, stays⟩
    rcases List.eq_nil_or_concat' after with rfl | ⟨between, last, rfl⟩
    · obtain ⟨_, same⟩ := List.append_inj' split rfl
      exact .inl (List.singleton_inj.mp same ▸ relates)
    · rw [← List.cons_append, ← List.append_assoc] at split
      obtain ⟨rfl, same⟩ := List.append_inj' split rfl
      obtain rfl := List.singleton_inj.mp same
      exact .inr ⟨⟨before, own, between, rfl, relates,
          fun later member => stays later (List.mem_append_left _ member)⟩,
        stays request (List.mem_append_right _ (List.mem_singleton_self request))⟩
  · rintro (relates | ⟨⟨before, own, after, rfl, relates, stays⟩, last⟩)
    · exact ⟨requests, request, [], rfl, relates, by simp⟩
    · refine ⟨before, own, after ++ [request], by simp, relates, ?_⟩
      intro later member
      rcases List.mem_append.mp member with here | there
      · exact stays later here
      · exact List.mem_singleton.mp there ▸ last

namespace KeyIndex

variable {index : KeyIndex}

/-- What the request is answered: only to take a name and to ask for its keys brings keys. -/
def answer (index : KeyIndex) : IndexRequest → List String
  | .change (.take name) => (index.take name).1
  | .change _ => []
  | .keysFor name => index.keysFor name

def next (index : KeyIndex) : IndexRequest → KeyIndex
  | .change call => index.after call
  | .keysFor _ => index

/-- The index to which the requests lead from an empty one. -/
def reached (requests : List IndexRequest) : KeyIndex :=
  requests.foldl next {}

theorem WellKept.next (kept : index.WellKept) (request : IndexRequest) :
    (index.next request).WellKept := by
  cases request with
  | change call => exact kept.after call
  | keysFor name => exact kept

theorem mem_keysFor_next (kept : index.WellKept) (request : IndexRequest) {name key : String} :
    key ∈ (index.next request).keysFor name ↔
      request.Relates name key ∨ (key ∈ index.keysFor name ∧ ¬request.Parts name key) := by
  cases request with
  | keysFor other => simp [next, IndexRequest.Relates, IndexRequest.Parts]
  | change call =>
      cases call with
      | insert other own =>
          have added := @mem_keysFor_insert_iff index other own name key
          simp only [next, after, IndexRequest.Relates, IndexRequest.Parts, added,
            not_false_eq_true, and_true]
          rw [or_comm, and_comm, eq_comm (a := key), eq_comm (a := Text.lower name)]
      | take other =>
          simp only [next, after, IndexRequest.Relates, IndexRequest.Parts, mem_keysFor_take_iff,
            false_or]
          rw [ne_eq, eq_comm (a := Text.lower name)]
      | forget own =>
          simp only [next, after, IndexRequest.Relates, IndexRequest.Parts,
            kept.distinct.mem_keysFor_forgetKey_iff, false_or]
          rw [ne_eq, eq_comm (a := key)]
      | clear => simp [next, after, IndexRequest.Relates, IndexRequest.Parts, keysFor]

theorem reached_concat (requests : List IndexRequest) (request : IndexRequest) :
    reached (requests ++ [request]) = (reached requests).next request := by
  unfold reached
  rw [List.foldl_append, List.foldl_cons, List.foldl_nil]

theorem reached_wellKept (requests : List IndexRequest) : (reached requests).WellKept := by
  induction requests using List.reverseRecOn with
  | nil => exact WellKept.empty
  | append_singleton earlier request ih =>
      rw [reached_concat]
      exact ih.next request

theorem mem_keysFor_reached (requests : List IndexRequest) {name key : String} :
    key ∈ (reached requests).keysFor name ↔ RelatedBy requests name key := by
  induction requests using List.reverseRecOn with
  | nil => simp [reached, keysFor, RelatedBy]
  | append_singleton earlier request ih =>
      rw [reached_concat, mem_keysFor_next (reached_wellKept earlier), ih, relatedBy_concat]

end KeyIndex

open KeyIndex in
/-- After any requests, a name is answered with the keys that are related to it, in the order of
their bytes and each once, whether they are taken or only asked for. There are as many names as
there are lower-case forms with a related key, and no names where nothing is related. -/
theorem index_relates_names_and_keys (requests : List IndexRequest) :
    (∀ name, (reached requests).answer (.change (.take name)) =
        (reached requests).answer (.keysFor name) ∧
      ((reached requests).answer (.keysFor name)).Pairwise
        (fun key next => Text.bytes key < Text.bytes next) ∧
      ∀ key, key ∈ (reached requests).answer (.keysFor name) ↔ RelatedBy requests name key) ∧
    {lowered | ∃ name key, Text.lower name = lowered ∧ RelatedBy requests name key}.encard =
      (reached requests).size ∧
    ((reached requests).isEmpty = true ↔ ∀ name key, ¬RelatedBy requests name key) := by
  have kept := reached_wellKept requests
  refine ⟨fun name => ⟨rfl, ?_, fun key => mem_keysFor_reached requests⟩, ?_, ?_⟩
  · exact (kept.keysFor_sorted name).imp Text.bytes_lt
  · rw [← kept.size_eq]
    simp only [mem_keysFor_reached]
  · rw [kept.isEmpty_iff]
    simp only [mem_keysFor_reached]

end BoundQuery
