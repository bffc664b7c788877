import BoostSystem.ErrorStoreRuns

/-!
# The intern table

A table of distinct strings, in which a string and its handle stand for each other. What the calls
since the last clear have issued is read off the calls and their replies.
-/

namespace BoostSystem

namespace ErrorStore

/-- A null pointer is `some none`; an access past the end has no result. -/
def wasmGetInternedMessage (s : ErrorStore) (handle : Int32) : Option (Option String) :=
  if decide (handle ≥ 0) && decide (handle < Int32.ofNat s.internedMessages.length) then do
    let message ← s.internedMessages[handle.toNatClampNeg]?
    return some message
  else some none

/-- The string `msg` is at the place `h`. -/
def Holds (s : ErrorStore) (msg : String) (h : Int32) : Prop :=
  ∃ n, s.internedMessages[n]? = some msg ∧ h = Int32.ofNat n

/-- The table fits and has no string twice. -/
structure TableReady (s : ErrorStore) : Prop where
  fits : s.internedMessages.length < 2 ^ 31
  nodup : s.internedMessages.Nodup

variable {s : ErrorStore}

theorem empty_ready : empty.TableReady := ⟨Nat.two_pow_pos 31, List.nodup_nil⟩

theorem not_holds_empty (msg : String) (h : Int32) : ¬ empty.Holds msg h := by
  rintro ⟨n, hget, -⟩
  exact nomatch hget

/-! ### Lookup -/

/-- The bound check tells the places of the table from the other handles. -/
theorem wasmGetInternedMessage_cases (hs : s.TableReady) (h : Int32) :
    (∃ msg, s.Holds msg h ∧ s.wasmGetInternedMessage h = some (some msg)) ∨
      (∀ msg, ¬ s.Holds msg h) ∧ s.wasmGetInternedMessage h = some none := by
  unfold wasmGetInternedMessage
  split_ifs with hrange
  · rw [Bool.and_eq_true, decide_eq_true_iff, decide_eq_true_iff] at hrange
    obtain ⟨hpos, hlt⟩ := hrange
    rw [← Int32.not_le, ofNat_le_iff hs.fits hpos, Nat.not_le] at hlt
    have hget := List.getElem?_eq_getElem hlt
    refine Or.inl ⟨_, ⟨_, hget, (Int32.ofNat_toNatClampNeg h hpos).symm⟩, ?_⟩
    rw [hget]
    rfl
  · refine Or.inr ⟨?_, rfl⟩
    rintro msg ⟨n, hget, rfl⟩
    obtain ⟨hlt, -⟩ := List.getElem?_eq_some_iff.mp hget
    have hfits := hs.fits
    have hpos : 0 ≤ Int32.ofNat n := Int32.zero_le_ofNat_of_lt (by omega)
    apply hrange
    rw [Bool.and_eq_true, decide_eq_true_iff, decide_eq_true_iff, ← Int32.not_le,
      ofNat_le_iff hfits hpos, Int32.toNatClampNeg_ofNat_of_lt (by omega)]
    exact ⟨hpos, by omega⟩

theorem Holds.place_inj (hs : s.TableReady) {msg msg' : String} {h : Int32}
    (hmsg : s.Holds msg h) (hmsg' : s.Holds msg' h) : msg = msg' := by
  obtain ⟨n, hget, rfl⟩ := hmsg
  obtain ⟨n', hget', heq⟩ := hmsg'
  obtain ⟨hlt, -⟩ := List.getElem?_eq_some_iff.mp hget
  obtain ⟨hlt', -⟩ := List.getElem?_eq_some_iff.mp hget'
  have hfits := hs.fits
  have hplace : n = n' := by
    rw [← Int32.toNatClampNeg_ofNat_of_lt (n := n) (by omega), heq,
      Int32.toNatClampNeg_ofNat_of_lt (by omega)]
  rw [← hplace, hget] at hget'
  exact Option.some.inj hget'

theorem Holds.eq_idxOf (hs : s.TableReady) {msg : String} {h : Int32} (hmsg : s.Holds msg h) :
    msg ∈ s.internedMessages ∧ h = Int32.ofNat (s.internedMessages.idxOf msg) := by
  obtain ⟨n, hget, rfl⟩ := hmsg
  obtain ⟨hlt, rfl⟩ := List.getElem?_eq_some_iff.mp hget
  rw [hs.nodup.idxOf_getElem n hlt]
  exact ⟨List.getElem_mem hlt, rfl⟩

theorem holds_idxOf {msg : String} (hmem : msg ∈ s.internedMessages) :
    s.Holds msg (Int32.ofNat (s.internedMessages.idxOf msg)) :=
  ⟨_, List.getElem?_idxOf hmem, rfl⟩

theorem wasmGetInternedMessage_of_holds (hs : s.TableReady) {msg : String} {h : Int32}
    (hmsg : s.Holds msg h) : s.wasmGetInternedMessage h = some (some msg) := by
  rcases wasmGetInternedMessage_cases hs h with ⟨msg', hmsg', hget⟩ | ⟨hnone, -⟩
  · rw [hget, hmsg'.place_inj hs hmsg]
  · exact absurd hmsg (hnone msg)

/-! ### Interning -/

/-- The search finds the string, or it goes to the end. -/
theorem wasmInternErrorMessage_cases (hs : s.TableReady) {msg : String} {h : Int32}
    {s' : ErrorStore} (hcall : s.wasmInternErrorMessage msg = some (h, s')) :
    s'.TableReady ∧ ∀ msg' h', s'.Holds msg' h' ↔ s.Holds msg' h' ∨ msg' = msg ∧ h' = h := by
  by_cases hmem : msg ∈ s.internedMessages
  · rw [wasmInternErrorMessage_of_mem s hmem] at hcall
    obtain ⟨rfl, rfl⟩ := Prod.mk.inj (Option.some.inj hcall)
    refine ⟨hs, ?_⟩
    intro msg' h'
    rw [iff_self_or]
    rintro ⟨rfl, rfl⟩
    exact holds_idxOf hmem
  · have hroom : s.internedMessages.length + 1 < 2 ^ 31 := by
      rw [wasmInternErrorMessage, if_neg (mt List.idxOf_lt_length_iff.mp hmem)] at hcall
      obtain ⟨messages, hmessages, -⟩ := Option.bind_eq_some_iff.mp hcall
      exact (emplaceBack_eq_some hmessages).1
    rw [wasmInternErrorMessage_of_not_mem s hmem hroom] at hcall
    obtain ⟨rfl, rfl⟩ := Prod.mk.inj (Option.some.inj hcall)
    refine ⟨⟨?_, ?_⟩, ?_⟩
    · rwa [List.length_append, List.length_singleton]
    · rw [List.nodup_append]
      refine ⟨hs.nodup, List.nodup_singleton msg, ?_⟩
      rintro m hm m' hm' rfl
      exact hmem (List.mem_singleton.mp hm' ▸ hm)
    · intro msg' h'
      constructor
      · rintro ⟨n, hget, rfl⟩
        rcases Nat.lt_or_ge n s.internedMessages.length with hlt | hge
        · rw [List.getElem?_append_left hlt] at hget
          exact Or.inl ⟨n, hget, rfl⟩
        · rw [List.getElem?_append_right hge, List.getElem?_singleton] at hget
          split_ifs at hget with hlast
          have hplace : n = s.internedMessages.length := by omega
          exact Or.inr ⟨(Option.some.inj hget).symm, congrArg Int32.ofNat hplace⟩
      · rintro (⟨n, hget, rfl⟩ | ⟨rfl, rfl⟩)
        · obtain ⟨hlt, -⟩ := List.getElem?_eq_some_iff.mp hget
          exact ⟨n, by rwa [List.getElem?_append_left hlt], rfl⟩
        · exact ⟨_, List.getElem?_concat_length, rfl⟩

/-! ### The other calls -/

theorem wasmCreateErrorCodesBulk_internedMessages {pairs : List (Int32 × Int32)}
    {a : List Int32 × ErrorStore} (h : s.wasmCreateErrorCodesBulk pairs = some a) :
    a.2.internedMessages = s.internedMessages := by
  induction pairs generalizing s a with
  | nil => rw [← Option.some.inj h]
  | cons pair pairs ih =>
    obtain ⟨codes, -, h⟩ := Option.bind_eq_some_iff.mp h
    obtain ⟨rest, hrest, h⟩ := Option.bind_eq_some_iff.mp h
    have hsame := ih hrest
    rwa [← Option.some.inj h]

/-- Only interning and clearing change the table. -/
theorem call_internedMessages {c : StoreCall} {r : StoreReply} {s' : ErrorStore}
    (hintern : ∀ msg, c ≠ .intern msg) (hclear : c ≠ .clear) (h : s.call c = some (r, s')) :
    s'.internedMessages = s.internedMessages := by
  cases c with
  | create | format =>
    obtain ⟨a, ha, heq⟩ := Option.map_eq_some_iff.mp h
    obtain ⟨_, -, hb⟩ := Option.bind_eq_some_iff.mp ha
    rw [← (Prod.mk.inj heq).2, ← Option.some.inj hb]
  | bulk pairs =>
    obtain ⟨a, ha, heq⟩ := Option.map_eq_some_iff.mp h
    rw [← (Prod.mk.inj heq).2]
    exact wasmCreateErrorCodesBulk_internedMessages ha
  | compare | info =>
    obtain ⟨a, -, heq⟩ := Option.map_eq_some_iff.mp h
    rw [← (Prod.mk.inj heq).2]
  | stats => rw [← (Prod.mk.inj (Option.some.inj h)).2]
  | intern msg => exact absurd rfl (hintern msg)
  | clear => exact absurd rfl hclear

end ErrorStore

/-! ### Runs -/

inductive TableCall where
  | store (call : StoreCall)
  | interned (handle : Int32)

inductive TableReply where
  | store (reply : StoreReply)
  | interned (message : Option String)

def ErrorStore.tableCall (s : ErrorStore) : TableCall → Option (TableReply × ErrorStore)
  | .store call => (s.call call).map fun (r, s) => (.store r, s)
  | .interned handle => (s.wasmGetInternedMessage handle).map fun message => (.interned message, s)

/-- The strings interned since the last clear, each with the handle that it got. -/
def recordIssued (issued : List (String × Int32)) : TableCall × TableReply → List (String × Int32)
  | (.store (.intern msg), .store (.handle h)) => issued ++ [(msg, h)]
  | (.store .clear, _) => []
  | _ => issued

def issuedInterns (calls : List TableCall) (replies : List TableReply) : List (String × Int32) :=
  Runs.run recordIssued [] (calls.zip replies)

/-- The table is ready and its places are the pairs that have been issued. -/
structure IssuedTable (issued : List (String × Int32)) (s : ErrorStore) : Prop where
  ready : s.TableReady
  places : ∀ msg h, (msg, h) ∈ issued ↔ s.Holds msg h

theorem IssuedTable.of_same {issued : List (String × Int32)} {s s' : ErrorStore}
    (hs : IssuedTable issued s) (hsame : s'.internedMessages = s.internedMessages) :
    IssuedTable issued s' := by
  obtain ⟨⟨hfits, hnodup⟩, hplaces⟩ := hs
  rw [← hsame] at hfits hnodup
  refine ⟨⟨hfits, hnodup⟩, ?_⟩
  intro msg h
  rw [hplaces, ErrorStore.Holds, ErrorStore.Holds, hsame]

theorem IssuedTable.step {issued : List (String × Int32)} {s s' : ErrorStore}
    (hs : IssuedTable issued s) {call : TableCall} {r : TableReply}
    (h : s.tableCall call = some (r, s')) : IssuedTable (recordIssued issued (call, r)) s' := by
  cases call with
  | interned handle =>
    obtain ⟨message, -, heq⟩ := Option.map_eq_some_iff.mp h
    obtain ⟨rfl, rfl⟩ := Prod.mk.inj heq
    exact hs
  | store c =>
    obtain ⟨⟨reply, s₁⟩, hc, heq⟩ := Option.map_eq_some_iff.mp h
    obtain ⟨rfl, rfl⟩ := Prod.mk.inj heq
    cases c with
    | intern msg =>
      obtain ⟨⟨handle, s₂⟩, hintern, heq⟩ := Option.map_eq_some_iff.mp hc
      obtain ⟨rfl, rfl⟩ := Prod.mk.inj heq
      obtain ⟨hready, hplaces⟩ := ErrorStore.wasmInternErrorMessage_cases hs.ready hintern
      refine ⟨hready, ?_⟩
      intro msg' h'
      rw [hplaces, ← hs.places, recordIssued, List.mem_append, List.mem_singleton, Prod.mk.injEq]
    | clear =>
      obtain ⟨-, rfl⟩ := Prod.mk.inj (Option.some.inj hc)
      refine ⟨ErrorStore.empty_ready, ?_⟩
      intro msg' h'
      exact iff_of_false List.not_mem_nil (ErrorStore.not_holds_empty msg' h')
    | create | bulk | compare | format | info | stats =>
      exact hs.of_same (ErrorStore.call_internedMessages (by simp) (by simp) hc)

theorem IssuedTable.answers {issued : List (String × Int32)} {s s' : ErrorStore}
    (hs : IssuedTable issued s) {calls : List TableCall} {replies : List TableReply}
    (h : Runs.answers ErrorStore.tableCall s calls = some (replies, s')) :
    IssuedTable (Runs.run recordIssued issued (calls.zip replies)) s' := by
  induction calls generalizing issued s replies with
  | nil =>
    obtain ⟨rfl, rfl⟩ := Prod.mk.inj (Option.some.inj h)
    exact hs
  | cons call calls ih =>
    obtain ⟨r, s₁, rest, hcall, hrest, rfl⟩ := Runs.answers_cons_eq_some.mp h
    exact ih (hs.step hcall) hrest

section

variable {issued : List (String × Int32)} {s : ErrorStore}

theorem IssuedTable.mem_iff (hs : IssuedTable issued s) (msg : String) :
    msg ∈ s.internedMessages ↔ ∃ h, (msg, h) ∈ issued := by
  constructor
  · intro hmem
    exact ⟨_, (hs.places _ _).mpr (ErrorStore.holds_idxOf hmem)⟩
  · rintro ⟨h, hissued⟩
    exact (((hs.places _ _).mp hissued).eq_idxOf hs.ready).1

theorem IssuedTable.handle_eq_iff (hs : IssuedTable issued s) {msg msg' : String} {h h' : Int32}
    (hissued : (msg, h) ∈ issued) (hissued' : (msg', h') ∈ issued) : h = h' ↔ msg = msg' := by
  have hmsg := (hs.places _ _).mp hissued
  have hmsg' := (hs.places _ _).mp hissued'
  constructor
  · rintro rfl
    exact hmsg.place_inj hs.ready hmsg'
  · rintro rfl
    rw [(hmsg.eq_idxOf hs.ready).2, (hmsg'.eq_idxOf hs.ready).2]

theorem IssuedTable.null_iff (hs : IssuedTable issued s) (h : Int32) :
    s.wasmGetInternedMessage h = some none ↔ ∀ msg, (msg, h) ∉ issued := by
  have hcases := ErrorStore.wasmGetInternedMessage_cases hs.ready h
  rcases hcases with ⟨msg, hmsg, hget⟩ | ⟨hnone, hget⟩
  · rw [hget]
    refine iff_of_false nofun ?_
    intro hnotIssued
    exact hnotIssued msg ((hs.places _ _).mpr hmsg)
  · refine iff_of_true hget ?_
    intro msg hissued
    exact hnone msg ((hs.places _ _).mp hissued)

/-- Interning returns as long as the table has room, and the string is then found. -/
theorem IssuedTable.returns (hs : IssuedTable issued s)
    (hroom : s.internedMessages.length + 1 < 2 ^ 31) (msg : String) : ∃ h s',
      s.wasmInternErrorMessage msg = some (h, s') ∧
        s'.wasmGetInternedMessage h = some (some msg) := by
  obtain ⟨h, s', hcall⟩ : ∃ h s', s.wasmInternErrorMessage msg = some (h, s') := by
    by_cases hmem : msg ∈ s.internedMessages
    · exact ⟨_, _, wasmInternErrorMessage_of_mem s hmem⟩
    · exact ⟨_, _, wasmInternErrorMessage_of_not_mem s hmem hroom⟩
  obtain ⟨hready, hplaces⟩ := ErrorStore.wasmInternErrorMessage_cases hs.ready hcall
  have hmsg : s'.Holds msg h := (hplaces msg h).mpr (Or.inr ⟨rfl, rfl⟩)
  exact ⟨h, s', hcall, ErrorStore.wasmGetInternedMessage_of_holds hready hmsg⟩

end

/-- Issued handles and interned strings are in bijection. -/
structure InternTable (issued : List (String × Int32)) (s : ErrorStore) : Prop where
  distinct : s.internedMessages.Nodup
  strings : ∀ msg, msg ∈ s.internedMessages ↔ ∃ h, (msg, h) ∈ issued
  found : ∀ msg h, (msg, h) ∈ issued → s.wasmGetInternedMessage h = some (some msg)
  handle_eq_iff : ∀ msg h msg' h', (msg, h) ∈ issued → (msg', h') ∈ issued → (h = h' ↔ msg = msg')
  unchanged : ∀ msg h, (msg, h) ∈ issued → s.wasmInternErrorMessage msg = some (h, s)
  null : ∀ h, s.wasmGetInternedMessage h = some none ↔ ∀ msg, (msg, h) ∉ issued
  returns : s.internedMessages.length + 1 < 2 ^ 31 → ∀ msg, ∃ h s',
    s.wasmInternErrorMessage msg = some (h, s') ∧ s'.wasmGetInternedMessage h = some (some msg)

/-- After every run the table is a bijection between the issued handles and distinct strings. -/
theorem intern_table_bijection (calls : List TableCall) (replies : List TableReply) (s : ErrorStore)
    (h : Runs.answers ErrorStore.tableCall .empty calls = some (replies, s)) :
    InternTable (issuedInterns calls replies) s := by
  have hempty : IssuedTable [] ErrorStore.empty := by
    refine ⟨ErrorStore.empty_ready, ?_⟩
    intro msg handle
    exact iff_of_false List.not_mem_nil (ErrorStore.not_holds_empty msg handle)
  have hs : IssuedTable (issuedInterns calls replies) s := hempty.answers h
  refine ⟨hs.ready.nodup, hs.mem_iff, ?_, ?_, ?_, hs.null_iff, hs.returns⟩
  · intro msg handle hissued
    exact ErrorStore.wasmGetInternedMessage_of_holds hs.ready ((hs.places _ _).mp hissued)
  · intro msg handle msg' handle' hissued hissued'
    exact hs.handle_eq_iff hissued hissued'
  · intro msg handle hissued
    obtain ⟨hmem, rfl⟩ := ((hs.places _ _).mp hissued).eq_idxOf hs.ready
    exact wasmInternErrorMessage_of_mem s hmem

def sampleTableCalls : List TableCall :=
  [.store (.intern "a"), .store .clear, .store (.intern "b"), .store (.intern "c"),
   .store (.create 2 0), .store (.intern "b"), .interned 1, .interned 2]

theorem intern_table_bijection_sample :
    InternTable [("b", 0), ("c", 1), ("b", 0)] ⟨[.ofPair 2 0], [], ["b", "c"]⟩ :=
  intern_table_bijection sampleTableCalls
    [.store (.handle 0), .store .done, .store (.handle 0), .store (.handle 1),
     .store (.handle 0), .store (.handle 0), .interned (some "c"), .interned none] _ rfl

end BoostSystem
