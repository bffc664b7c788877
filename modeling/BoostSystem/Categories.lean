import BoostSystem.Keyed
import BoostSystem.Objects

/-!
# Error categories

`error_category`, the generic, system and interop categories derived from it, and the dispatch of
their virtual functions. Categories compare by identifier, and by address when the right-hand side
has no identifier; `ErrorCategory.key` is the key that both comparisons read off. `eq` and `lt` are
`operator==` and `operator<`, and `toStd` is `operator std::error_category const &`. The message
functions that end in `Buffer` are the overloads that take a buffer.
-/

namespace BoostSystem

open CString Keyed

variable {U K : Type}

def Text.read (text : Text) (size : ℕ) : String :=
  match text.ptr, text.buffer with
  | .literal t, _ => t
  | .buffer, some b => readArray size b
  | .buffer, none => ""

def genericErrorCategoryMessageBuffer (w : Program U K) (ev : Int32) (buffer : Option Buffer)
    (len : ℕ) : Text :=
  match w.libc, buffer with
  | .gnu strerrorR, some b => ⟨(strerrorR ev b len).1, some (strerrorR ev b len).2⟩
  -- the `tmp` that stands in for a null buffer is reported as null again
  | .gnu strerrorR, none => ⟨(strerrorR ev (fun _ => nul) 0).1, none⟩
  | .xsi strerrorR, some b =>
    ⟨if (strerrorR ev b len).1 = 0 then .buffer else .literal "Unknown error",
      some (strerrorR ev b len).2⟩
  | .xsi strerrorR, none =>
    ⟨if (strerrorR ev (fun _ => nul) 0).1 = 0 then .buffer else .literal "Unknown error", none⟩
  | .other strerror, buffer =>
    if len = 0 then ⟨.buffer, buffer⟩
    else if len = 1 then ⟨.buffer, buffer.map (store · 0 nul)⟩
    else match strerror ev with
      | none => ⟨.literal "Unknown error", buffer⟩
      | some m =>
        ⟨.buffer, buffer.map fun b => store (strncpy b (cStr m) (len - 1)) (len - 1) nul⟩

def genericErrorCategoryMessage (w : Program U K) (ev : Int32) : String :=
  match w.libc with
  | .other strerror => (strerror ev).getD "Unknown error"
  | _ => (genericErrorCategoryMessageBuffer w ev (some w.stack) 128).read 128

def systemErrorCategoryMessageBuffer (w : Program U K) (ev : Int32) (buffer : Option Buffer)
    (len : ℕ) : Text := genericErrorCategoryMessageBuffer w ev buffer len

def systemErrorCategoryMessage (w : Program U K) (ev : Int32) : String :=
  genericErrorCategoryMessage w ev

def genericErrorCategory (w : Program U K) : CategoryClass U K where
  name := "generic"
  message ev := some (genericErrorCategoryMessage w ev)
  messageBuffer := some (genericErrorCategoryMessageBuffer w)
  failed := none
  defaultErrorCondition := none
  equivalentCondition := none
  equivalentCode := none

def systemErrorCategory (w : Program U K) : CategoryClass U K where
  name := "system"
  message ev := some (systemErrorCategoryMessage w ev)
  messageBuffer := some (systemErrorCategoryMessageBuffer w)
  failed := none
  -- `error_condition( generic_value_tag( ev ) )`
  defaultErrorCondition := some fun ev => ⟨ev, none⟩
  equivalentCondition := none
  equivalentCode := none

def interopErrorCategoryMessageBuffer (ev : Int32) (buffer : Option Buffer) (len : ℕ) : Text :=
  ⟨.buffer, buffer.map (snprintf · len ("Unknown interop error " ++ decimal ev).toList)⟩

def interopErrorCategory (w : Program U K) : CategoryClass U K where
  name := "std:unknown"
  message ev := some ((interopErrorCategoryMessageBuffer ev (some w.stack) 48).read 48)
  messageBuffer := some interopErrorCategoryMessageBuffer
  failed := none
  defaultErrorCondition := none
  equivalentCondition := none
  equivalentCode := none

def Program.classOf (w : Program U K) : ErrorCategory U → CategoryClass U K
  | .generic => genericErrorCategory w
  | .system => systemErrorCategory w
  | .interop => interopErrorCategory w
  | .user u => w.userClass u

namespace ErrorCategory

variable (w : Program U K)

def id (c : ErrorCategory U) : UInt64 := c.idOf w.userId

def name (c : ErrorCategory U) : String := (w.classOf c).name

def message (c : ErrorCategory U) (ev : Int32) : Option String := (w.classOf c).message ev

def messageBuffer (c : ErrorCategory U) (ev : Int32) (buffer : Option Buffer) (len : ℕ) : Text :=
  match (w.classOf c).messageBuffer with
  | some f => f ev buffer len
  | none =>
    if len = 0 then ⟨.buffer, buffer⟩
    else if len = 1 then ⟨.buffer, buffer.map (store · 0 nul)⟩
    else match c.message w ev with
      | some m => ⟨.buffer, buffer.map (snprintf · len (cStr m))⟩
      | none =>
        let text := ("No message text available for error " ++ decimal ev).toList
        ⟨.buffer, buffer.map (snprintf · len text)⟩

def failed (c : ErrorCategory U) (ev : Int32) : Bool :=
  match (w.classOf c).failed with
  | some f => f ev
  | none => ev != 0

def defaultErrorCondition (c : ErrorCategory U) (ev : Int32) : ErrorCondition U :=
  match (w.classOf c).defaultErrorCondition with
  | some f => f ev
  | none => ⟨ev, some c⟩

def eq (lhs rhs : ErrorCategory U) : Bool :=
  if rhs.id w == 0 then w.address lhs == w.address rhs else lhs.id w == rhs.id w

def lt (lhs rhs : ErrorCategory U) : Bool :=
  if lhs.id w < rhs.id w then true
  else if lhs.id w > rhs.id w then false
  else if rhs.id w != 0 then false
  else w.address lhs < w.address rhs

/-- Which object the reference denotes depends on the identifier only; the first conversion also
constructs that object. -/
def toStd (c : ErrorCategory U) : StdErrorCategory U K :=
  if c.id w == genericCategoryId then
    if w.config.avoidStdGenericCategory then .genericInstance else .generic
  else if c.id w == systemCategoryId then
    if w.config.avoidStdSystemCategory then .systemInstance else .system
  else .stdcat c

@[simp] theorem id_generic : (generic : ErrorCategory U).id w = genericCategoryId := rfl

@[simp] theorem id_system : (system : ErrorCategory U).id w = systemCategoryId := rfl

@[simp] theorem id_interop : (interop : ErrorCategory U).id w = interopCategoryId := rfl

theorem toStd_of_generic_id (c : ErrorCategory U) (hid : c.id w = genericCategoryId) :
    c.toStd w = if w.config.avoidStdGenericCategory then .genericInstance else .generic := by
  simp [toStd, hid]

theorem toStd_of_system_id (c : ErrorCategory U) (hid : c.id w = systemCategoryId) :
    c.toStd w = if w.config.avoidStdSystemCategory then .systemInstance else .system := by
  simp [toStd, hid]

@[simp] theorem toStd_generic : (generic : ErrorCategory U).toStd w =
    if w.config.avoidStdGenericCategory then StdErrorCategory.genericInstance (K := K)
    else .generic := toStd_of_generic_id w _ rfl

@[simp] theorem toStd_system : (system : ErrorCategory U).toStd w =
    if w.config.avoidStdSystemCategory then StdErrorCategory.systemInstance (K := K)
    else .system := toStd_of_system_id w _ rfl

theorem toStd_of_id_ne (c : ErrorCategory U) (hg : c.id w ≠ genericCategoryId)
    (hs : c.id w ≠ systemCategoryId) : c.toStd w = .stdcat c := by
  simp [toStd, hg, hs]

@[simp] theorem toStd_interop :
    (interop : ErrorCategory U).toStd w = StdErrorCategory.stdcat (K := K) .interop :=
  toStd_of_id_ne w _ interopCategoryId_ne_generic interopCategoryId_ne_system

theorem address_beq (c d : ErrorCategory U) : (w.address c == w.address d) = true ↔ c = d := by
  rw [beq_iff_eq, w.address_injective.eq_iff]

theorem eq_iff (c d : ErrorCategory U) :
    c.eq w d = true ↔ c.id w = d.id w ∧ (d.id w = 0 → c = d) := by
  unfold eq
  by_cases hd : d.id w = 0
  · rw [if_pos (beq_iff_eq.mpr hd), address_beq]
    exact ⟨fun hcd => ⟨by rw [hcd], fun _ => hcd⟩, fun h => h.2 hd⟩
  · rw [if_neg (mt beq_iff_eq.mp hd), beq_iff_eq]
    exact ⟨fun hcd => ⟨hcd, fun h0 => absurd h0 hd⟩, fun h => h.1⟩

@[simp] theorem eq_self (c : ErrorCategory U) : c.eq w c = true :=
  (eq_iff w c c).mpr ⟨rfl, fun _ => rfl⟩

/-- Against a category that has an identifier, only the identifiers count. -/
theorem eq_of_id_ne_zero (c d : ErrorCategory U) (hd : d.id w ≠ 0) :
    c.eq w d = (c.id w == d.id w) := by
  unfold eq
  rw [if_neg (mt beq_iff_eq.mp hd)]

/-- The address takes part in comparisons only when there is no identifier. -/
def key (c : ErrorCategory U) : ℕ ×ₗ ℕ :=
  toLex ((c.id w).toNat, if c.id w = 0 then (w.address c).toNat else 0)

theorem key_eq_iff (c d : ErrorCategory U) :
    c.key w = d.key w ↔ c.id w = d.id w ∧ (d.id w = 0 → c = d) := by
  simp only [key, toLex_inj, Prod.mk.injEq, UInt64.toNat_inj]
  refine and_congr_right fun hid => ?_
  by_cases hd : d.id w = 0
  · simp [hid, hd, UInt64.toNat_inj, w.address_injective.eq_iff]
  · simp [hid, hd]

theorem lt_iff_key (c d : ErrorCategory U) : c.lt w d = true ↔ c.key w < d.key w := by
  simp only [lt, key, Prod.Lex.toLex_lt_toLex, UInt64.lt_iff_toNat_lt, gt_iff_lt]
  rcases lt_trichotomy (c.id w).toNat (d.id w).toNat with hlt | heq | hgt
  · simp [hlt]
  · have hid : c.id w = d.id w := UInt64.toNat_inj.mp heq
    by_cases hd : d.id w = 0
    · simp [hid, hd]
    · simp [hid, hd]
  · simp [hgt, hgt.asymm, hgt.ne']

theorem keyed : KeyedBy (key w) (eq w) (lt w) where
  eq_iff c d := by rw [eq_iff, key_eq_iff]
  lt_iff c d := lt_iff_key w c d

theorem eq_comm (c d : ErrorCategory U) : c.eq w d = d.eq w c :=
  Bool.eq_iff_iff.mpr ⟨(keyed w).coherent.symm c d, (keyed w).coherent.symm d c⟩

theorem eq_generic (c : ErrorCategory U) : c.eq w .generic = (c.id w == genericCategoryId) :=
  eq_of_id_ne_zero w c .generic genericCategoryId_ne_zero

theorem eq_system (c : ErrorCategory U) : c.eq w .system = (c.id w == systemCategoryId) :=
  eq_of_id_ne_zero w c .system systemCategoryId_ne_zero

end ErrorCategory

def failedImpl (w : Program U K) (ev : Int32) (cat : ErrorCategory U) : Bool :=
  if cat.id w == systemCategoryId || cat.id w == genericCategoryId then ev != 0
  else cat.failed w ev

/-- Categories with a builtin identifier keep the default `failed`. -/
def Program.BuiltinFailed (w : Program U K) : Prop :=
  ∀ c : ErrorCategory U, c.id w = systemCategoryId ∨ c.id w = genericCategoryId →
    ∀ ev, c.failed w ev = (ev != 0)

theorem failedImpl_eq_failed (w : Program U K) (hw : w.BuiltinFailed) (ev : Int32)
    (c : ErrorCategory U) : failedImpl w ev c = c.failed w ev := by
  unfold failedImpl
  split_ifs with hid
  · rw [Bool.or_eq_true, beq_iff_eq, beq_iff_eq] at hid
    exact (hw c hid ev).symm
  · rfl

end BoostSystem
