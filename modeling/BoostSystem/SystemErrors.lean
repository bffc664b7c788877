import BoostSystem.CodeStrings
import BoostSystem.ResultPrograms

/-!
# Exceptions for error codes

`system_error` carries a code and a text that ends in the code's `to_string` and its location in
brackets, which can be read back whatever the message and the prefix before it are. The overloads of
`throw_exception_from_error` say which exception `value()` throws for which type of error.
-/

namespace BoostSystem

open CString

variable {U K : Type}

/-- `text` is what the constructor of `std::runtime_error` is given. -/
structure SystemError (U K : Type) where
  text : String
  code : ErrorCode U K

namespace SystemError

/-- `what()` is read by C. -/
def what (x : SystemError U K) : String := String.ofList (cStr x.text)

variable (w : Program U K)

/-- `system_error( ec )`, or what `message()` throws. -/
def ofCode (ec : ErrorCode U K) : Option (SystemError U K) :=
  (ec.what w).map fun text => ⟨text, ec⟩

/-- `system_error( ec, prefix )`, for a prefix of either type. -/
def ofCodeAfter (start : String) (ec : ErrorCode U K) : Option (SystemError U K) :=
  (ec.what w).map fun text => ⟨start ++ ": " ++ text, ec⟩

def ofValue (ev : Int32) (ecat : ErrorCategory U) : Option (SystemError U K) :=
  ofCode w (.ofCategory w ev ecat)

def ofValueAfter (start : String) (ev : Int32) (ecat : ErrorCategory U) :
    Option (SystemError U K) := ofCodeAfter w start (.ofCategory w ev ecat)

end SystemError

/-! ### What is in the brackets -/

section Texts

variable (w : Program U K)

def locationText (ec : ErrorCode U K) : String :=
  if ec.hasLocation then " at " ++ w.locationToString ec.location else ""

/-- No bracket opens in the name or in the location, the name is one word, and C reads all of them and
of the message. -/
structure Legible (ec : ErrorCode U K) : Prop where
  name_space : ' ' ∉ (ec.ownName w).toList
  name_bracket : '[' ∉ (ec.ownName w).toList
  name_nul : nul ∉ (ec.ownName w).toList
  location_bracket : '[' ∉ (locationText w ec).toList
  location_nul : nul ∉ (locationText w ec).toList
  message_nul : ∀ message, ec.message w = some message → nul ∉ message.toList

/-- The text of an exception, in front of the brackets and in them. -/
structure Brackets (ec : ErrorCode U K) (x : SystemError U K) : Prop where
  code : x.code = ec
  what : ∃ start : List Char, x.what.toList =
    start ++ '[' :: ((ec.toString w).toList ++ ((locationText w ec).toList ++ [']']))

theorem toString_free {c : Char} (hcolon : c ≠ ':') (hdigit : c.isDigit = false) (hsign : c ≠ '-')
    (hstd : c ∉ "std:".toList) {ec : ErrorCode U K} (hname : c ∉ (ec.ownName w).toList) :
    c ∉ (ec.toString w).toList := by
  have hshown : c ∉ (ec.shownName w).toList := by
    rw [ErrorCode.shownName]
    split_ifs
    · rw [String.toList_append, List.mem_append, not_or]
      exact ⟨hstd, hname⟩
    · exact hname
  rw [ErrorCode.toString_eq, String.toList_append, String.toList_append, List.mem_append,
    List.mem_append, not_or, not_or]
  refine ⟨hshown, ?_, ?_⟩
  · exact fun hmem => hcolon (List.mem_singleton.mp hmem)
  · intro hmem
    rw [isDigit_of_mem_decimal hmem hsign] at hdigit
    exact Bool.noConfusion hdigit

theorem toString_nul {ec : ErrorCode U K} (h : Legible w ec) : nul ∉ (ec.toString w).toList :=
  toString_free w (by decide) (by decide) (by decide) (by decide) h.name_nul

theorem what_brackets {ec : ErrorCode U K} (hlegible : Legible w ec) {text : String}
    (h : ec.what w = some text) : nul ∉ text.toList ∧ ∃ start : List Char, text.toList =
      start ++ '[' :: ((ec.toString w).toList ++ ((locationText w ec).toList ++ [']'])) := by
  obtain ⟨m, hm, rfl⟩ := Option.map_eq_some_iff.mp h
  have hinside : (m ++ " [" ++ ec.toString w ++ locationText w ec ++ "]").toList = (m.toList ++ [' ']) ++
      '[' :: ((ec.toString w).toList ++ ((locationText w ec).toList ++ [']'])) := by
    simp only [String.toList_append, List.append_assoc]
    rfl
  refine ⟨?_, _, hinside⟩
  change nul ∉ (m ++ " [" ++ ec.toString w ++ locationText w ec ++ "]").toList
  rw [hinside]
  simp only [List.mem_append, List.mem_cons, not_or]
  exact ⟨⟨hlegible.message_nul m hm, by decide, List.not_mem_nil⟩, by decide, toString_nul w hlegible,
    hlegible.location_nul, by decide, List.not_mem_nil⟩

theorem what_of_nul_notMem {text : String} (h : nul ∉ text.toList) (ec : ErrorCode U K) :
    (SystemError.what ⟨text, ec⟩).toList = text.toList := by
  rw [SystemError.what, String.toList_ofList, cStr_of_nul_notMem h]

theorem ofCode_brackets {ec : ErrorCode U K} (hlegible : Legible w ec) {x : SystemError U K}
    (h : SystemError.ofCode w ec = some x) : Brackets w ec x := by
  obtain ⟨text, htext, rfl⟩ := Option.map_eq_some_iff.mp h
  obtain ⟨hnul, start, hstart⟩ := what_brackets w hlegible htext
  exact ⟨rfl, start, (what_of_nul_notMem hnul ec).trans hstart⟩

theorem ofCodeAfter_brackets {pre : String} (hpre : nul ∉ pre.toList) {ec : ErrorCode U K}
    (hlegible : Legible w ec) {x : SystemError U K} (h : SystemError.ofCodeAfter w pre ec = some x) :
    Brackets w ec x := by
  obtain ⟨text, htext, rfl⟩ := Option.map_eq_some_iff.mp h
  obtain ⟨hnul, start, hstart⟩ := what_brackets w hlegible htext
  have hall : nul ∉ (pre ++ ": " ++ text).toList := by
    rw [String.toList_append, String.toList_append, List.mem_append, List.mem_append, not_or, not_or]
    exact ⟨⟨hpre, by decide⟩, hnul⟩
  refine ⟨rfl, (pre ++ ": ").toList ++ start, ?_⟩
  rw [what_of_nul_notMem hall, String.toList_append, hstart, List.append_assoc]

theorem append_first_separator_inj {sep : Char} {s t d e : List Char} (hs : sep ∉ s)
    (ht : sep ∉ t) (h : s ++ sep :: d = t ++ sep :: e) : s = t ∧ d = e := by
  have hreverse := congrArg List.reverse h
  rw [List.reverse_append, List.reverse_append, List.reverse_cons, List.reverse_cons,
    List.append_assoc, List.append_assoc] at hreverse
  obtain ⟨hd, hst⟩ := append_separator_inj (mt List.mem_reverse.mp hs) (mt List.mem_reverse.mp ht)
    hreverse
  exact ⟨List.reverse_injective hst, List.reverse_injective hd⟩

theorem toString_space {ec : ErrorCode U K} (h : Legible w ec) : ' ' ∉ (ec.toString w).toList :=
  toString_free w (by decide) (by decide) (by decide) (by decide) h.name_space

theorem toString_bracket {ec : ErrorCode U K} (h : Legible w ec) :
    '[' ∉ (ec.toString w).toList :=
  toString_free w (by decide) (by decide) (by decide) (by decide) h.name_bracket

theorem locationText_cases (ec : ErrorCode U K) :
    (ec.hasLocation = false ∧ (locationText w ec).toList = []) ∨
      (ec.hasLocation = true ∧ (locationText w ec).toList =
        ' ' :: ("at " ++ w.locationToString ec.location).toList) := by
  rw [locationText]
  cases ec.hasLocation with
  | false => exact Or.inl ⟨rfl, rfl⟩
  | true =>
    refine Or.inr ⟨rfl, ?_⟩
    rw [if_pos rfl, String.toList_append, String.toList_append]
    rfl

theorem toString_locationText_inj {a b : ErrorCode U K} (ha : Legible w a) (hb : Legible w b)
    (h : (a.toString w).toList ++ (locationText w a).toList =
      (b.toString w).toList ++ (locationText w b).toList) :
    a.toString w = b.toString w ∧ a.hasLocation = b.hasLocation ∧
      (locationText w a).toList = (locationText w b).toList := by
  have hspace {x y : ErrorCode U K} (hx : Legible w x) {rest : List Char}
      (heq : (x.toString w).toList = (y.toString w).toList ++ ' ' :: rest) : False := by
    apply toString_space w hx
    rw [heq]
    exact List.mem_append_right _ List.mem_cons_self
  rcases locationText_cases w a with ⟨hla, hta⟩ | ⟨hla, hta⟩
  · rcases locationText_cases w b with ⟨hlb, htb⟩ | ⟨hlb, htb⟩
    · rw [hta, htb, List.append_nil, List.append_nil] at h
      exact ⟨String.toList_inj.mp h, hla.trans hlb.symm, hta.trans htb.symm⟩
    · rw [hta, htb, List.append_nil] at h
      exact (hspace ha h).elim
  · rcases locationText_cases w b with ⟨hlb, htb⟩ | ⟨hlb, htb⟩
    · rw [hta, htb, List.append_nil] at h
      exact (hspace hb h.symm).elim
    · rw [hta, htb] at h
      obtain ⟨htext, hrest⟩ := append_first_separator_inj (toString_space w ha)
        (toString_space w hb) h
      exact ⟨String.toList_inj.mp htext, hla.trans hlb.symm, by rw [hta, htb, hrest]⟩

theorem inside_bracket {ec : ErrorCode U K} (h : Legible w ec) :
    '[' ∉ (ec.toString w).toList ++ ((locationText w ec).toList ++ [']']) := by
  rw [List.mem_append, List.mem_append, not_or, not_or]
  exact ⟨toString_bracket w h, h.location_bracket, by decide⟩

theorem Brackets.inj {a b : ErrorCode U K} {x y : SystemError U K} (hx : Brackets w a x)
    (hy : Brackets w b y) (ha : Legible w a) (hb : Legible w b) (h : x.what = y.what) :
    a.toString w = b.toString w ∧ a.hasLocation = b.hasLocation ∧
      locationText w a = locationText w b := by
  obtain ⟨start, hstart⟩ := hx.what
  obtain ⟨start', hstart'⟩ := hy.what
  rw [h, hstart'] at hstart
  obtain ⟨-, hinside⟩ := append_separator_inj (inside_bracket w hb) (inside_bracket w ha) hstart
  rw [← List.append_assoc, ← List.append_assoc] at hinside
  have hshown := List.append_cancel_right hinside
  obtain ⟨htext, hlocation, hlist⟩ := toString_locationText_inj w ha hb hshown.symm
  exact ⟨htext, hlocation, String.toList_inj.mp hlist⟩

/-- What the constructors make for a code, with a prefix that C reads to its end. -/
inductive MadeFor : ErrorCode U K → SystemError U K → Prop where
  | code {ec x} (h : SystemError.ofCode w ec = some x) : MadeFor ec x
  | codeAfter {start ec x} (hstart : nul ∉ start.toList)
      (h : SystemError.ofCodeAfter w start ec = some x) : MadeFor ec x
  | value {ev ecat x} (h : SystemError.ofValue w ev ecat = some x) :
      MadeFor (.ofCategory w ev ecat) x
  | valueAfter {start ev ecat x} (hstart : nul ∉ start.toList)
      (h : SystemError.ofValueAfter w start ev ecat = some x) : MadeFor (.ofCategory w ev ecat) x

theorem MadeFor.brackets {ec : ErrorCode U K} {x : SystemError U K} (h : MadeFor w ec x)
    (hlegible : Legible w ec) : Brackets w ec x := by
  cases h with
  | code h => exact ofCode_brackets w hlegible h
  | codeAfter hstart h => exact ofCodeAfter_brackets w hstart hlegible h
  | value h => exact ofCode_brackets w hlegible h
  | valueAfter hstart h => exact ofCodeAfter_brackets w hstart hlegible h

/-- Whatever else the messages and the prefixes are, exceptions with one text are for codes that show
alike: they have one name, one value, and one location or none. -/
theorem system_error_texts {a b : ErrorCode U K} {x y : SystemError U K} (hx : MadeFor w a x)
    (hy : MadeFor w b y) (ha : Legible w a) (hb : Legible w b) :
    x.code = a ∧ y.code = b ∧ (x.what = y.what →
      a.shownName w = b.shownName w ∧ a.ownValue w = b.ownValue w ∧
        a.hasLocation = b.hasLocation ∧ locationText w a = locationText w b) := by
  have hbrackets := hx.brackets w ha
  have hbrackets' := hy.brackets w hb
  refine ⟨hbrackets.code, hbrackets'.code, ?_⟩
  intro hwhat
  obtain ⟨htext, hlocation⟩ := hbrackets.inj w hbrackets' ha hb hwhat
  obtain ⟨hname, hvalue⟩ := ErrorCode.toString_inj w htext
  exact ⟨hname, hvalue, hlocation⟩

end Texts

theorem system_error_texts_plain :
    ∃ x y, SystemError.ofValue (plainPair 0) 5 .system = some x ∧
      SystemError.ofCodeAfter (plainPair 0) "open" (.ofCategory (plainPair 0) 2 .system) = some y ∧
      x.what ≠ y.what := by
  have hmessage (message : String) (h : some "Unknown error" = some message) :
      nul ∉ message.toList := by
    obtain rfl := Option.some.inj h
    decide
  have hfive : Legible (plainPair 0) (.ofCategory (plainPair 0) 5 .system) :=
    ⟨by decide, by decide, by decide, by decide, by decide, hmessage⟩
  have htwo : Legible (plainPair 0) (.ofCategory (plainPair 0) 2 .system) :=
    ⟨by decide, by decide, by decide, by decide, by decide, hmessage⟩
  have hopen : nul ∉ "open".toList := by decide
  refine ⟨_, _, rfl, rfl, ?_⟩
  obtain ⟨-, -, hshown⟩ := system_error_texts (plainPair 0) (.value rfl) (.codeAfter hopen rfl)
    hfive htwo
  intro hwhat
  exact absurd (hshown hwhat).2.1 (by decide)

/-! ### What `value()` throws -/

/-- `fromMessage` is what a `message()` throws while a text is being made. -/
inductive Thrown (U K : Type) where
  | systemError (e : SystemError U K)
  | stdSystemError (code : StdErrorCode U K)
  | fromMessage

section Errors

variable (w : Program U K)

def throwSystemError (e : Option (SystemError U K)) : Thrown U K :=
  match e with
  | some e => .systemError e
  | none => .fromMessage

/-- `make_error_code( errc::errc_t )`. -/
def makeErrorCode (e : Int32) : ErrorCode U K := .ofCategory w e .generic

def stdMakeErrorCode (e : Int32) : StdErrorCode U K := ⟨e, .generic⟩

def errorCodeType : ErrorType (Thrown U K) where
  carrier := ErrorCode U K
  exception e := throwSystemError (SystemError.ofCode w e)

/-- The enumeration by its values. -/
def errcType : ErrorType (Thrown U K) where
  carrier := Int32
  exception e := throwSystemError (SystemError.ofCode w (makeErrorCode w e))

/-- `std::system_error( e )`, which asks for the message of `e`. -/
def throwStdSystemError (e : StdErrorCode U K) : Thrown U K :=
  if (e.message w).isSome then .stdSystemError e else .fromMessage

def stdErrorCodeType : ErrorType (Thrown U K) where
  carrier := StdErrorCode U K
  exception e := throwStdSystemError w e

def stdErrcType : ErrorType (Thrown U K) where
  carrier := Int32
  exception e := throwStdSystemError w (stdMakeErrorCode e)

/-- `x.code()` of the exceptions for error codes. -/
def codeOf (x : Thrown U K) : ErrorCode U K :=
  match x with
  | .systemError e => e.code
  | _ => .empty

def stdCodeOf (x : Thrown U K) : StdErrorCode U K :=
  match x with
  | .stdSystemError code => code
  | _ => .empty

theorem codeOf_leftInverse (hmessages : ∀ ec : ErrorCode U K, (ec.what w).isSome = true) :
    Function.LeftInverse codeOf (errorCodeType w).exception := by
  intro ec
  obtain ⟨text, htext⟩ := Option.isSome_iff_exists.mp (hmessages ec)
  change codeOf (throwSystemError ((ec.what w).map fun text => ⟨text, ec⟩)) = ec
  rw [htext]
  rfl

theorem stdCodeOf_leftInverse
    (hmessages : ∀ e : StdErrorCode U K, (e.message w).isSome = true) :
    Function.LeftInverse stdCodeOf (stdErrorCodeType w).exception := by
  intro e
  change stdCodeOf (throwStdSystemError w e) = e
  rw [throwStdSystemError, if_pos (hmessages e)]
  rfl

theorem throwSystemError_ne (e : Option (SystemError U K)) (s : StdErrorCode U K) :
    throwSystemError e ≠ .stdSystemError s := by
  intro h
  cases e with
  | some e => cases h
  | none => cases h

theorem throwStdSystemError_ne (s : StdErrorCode U K) (e : SystemError U K) :
    throwStdSystemError w s ≠ .systemError e := by
  intro h
  rw [throwStdSystemError] at h
  split_ifs at h

/-- Which conversions of errors keep the exception: those of the two enumerations do, and those between
the codes of this library and of the standard library do not, where a code has a text. -/
structure ConversionsKeep : Prop where
  errc : ∀ e, (errorCodeType w).exception (makeErrorCode w e) = (errcType w).exception e
  stdErrc : ∀ e, (stdErrorCodeType w).exception (stdMakeErrorCode e) = (stdErrcType w).exception e
  ofStd : ∀ e : StdErrorCode U K, (e.message w).isSome = true →
    (errorCodeType w).exception (.ofStd w e) ≠ (stdErrorCodeType w).exception e
  toStd : ∀ e : ErrorCode U K, (e.what w).isSome = true →
    (stdErrorCodeType w).exception (e.toStd w) ≠ (errorCodeType w).exception e

theorem conversionsKeep : ConversionsKeep w where
  errc _ := rfl
  stdErrc _ := rfl
  ofStd e hmessage := by
    change throwSystemError _ ≠ throwStdSystemError w e
    rw [throwStdSystemError, if_pos hmessage]
    exact throwSystemError_ne _ _
  toStd e hwhat := by
    obtain ⟨text, htext⟩ := Option.isSome_iff_exists.mp hwhat
    change throwStdSystemError w _ ≠ throwSystemError ((e.what w).map fun text => ⟨text, e⟩)
    rw [htext]
    exact throwStdSystemError_ne w _ _

/-- A program of results and the same program with exceptions make the same calls and end alike, as
long as errors are converted only in the ways that keep their exceptions: with the exception for the
last result, with what a last `|` puts in the place of either, and, if no `message()` throws, with the
result that `catch( std::system_error const& x )`, or that of this library, makes of `x.code()`. -/
theorem results_are_exceptions {M : Type → Type} [Monad M] [LawfulMonad M] {T V : Type}
    {E : ErrorType (Thrown U K)} :
    ConversionsKeep w ∧
    (∀ (F : ErrorType (Thrown U K)) (p : ResultProgram (Thrown U K) M T E V F), p.Coherent →
      ∀ r : Result T E.carrier, ResultProgram.valueOf F (p.eval r) =
          p.throwing (ExceptT.mk (pure (r.valueOrThrow E))) ∧
        ∀ {A : Type} (toV : A → V) (f : M A), (p.eval r >>= fun r => r.orValue toV f) =
          ResultProgram.handled toV f (p.throwing (ExceptT.mk (pure (r.valueOrThrow E))))) ∧
    (∀ p : ResultProgram (Thrown U K) M T E V (stdErrorCodeType w), p.Coherent →
      (∀ e : StdErrorCode U K, (e.message w).isSome = true) → ∀ r : Result T E.carrier,
        p.eval r = ResultProgram.caught (F := stdErrorCodeType w) stdCodeOf
          (p.throwing (ExceptT.mk (pure (r.valueOrThrow E))))) ∧
    ∀ p : ResultProgram (Thrown U K) M T E V (errorCodeType w), p.Coherent →
      (∀ ec : ErrorCode U K, (ec.what w).isSome = true) → ∀ r : Result T E.carrier,
        p.eval r = ResultProgram.caught (F := errorCodeType w) codeOf
          (p.throwing (ExceptT.mk (pure (r.valueOrThrow E)))) := by
  refine ⟨conversionsKeep w, ?_, ?_, ?_⟩
  · intro F p hp r
    exact ⟨p.valueOf_eval hp r, fun toV f => p.eval_orValue hp r toV f⟩
  · intro p hp hmessages r
    exact p.eval_eq_caught hp r (stdCodeOf_leftInverse w hmessages)
  · intro p hp hmessages r
    exact p.eval_eq_caught hp r (codeOf_leftInverse w hmessages)

end Errors

/-- A file that cannot be opened, a default in its place, and the length of its text. -/
def lengthProgram : ResultProgram (Thrown Bool Empty) (StateM (List String)) String
    (errcType (plainPair 0)) ℕ (errorCodeType (plainPair 0)) :=
  @ResultProgram.andResult _ _ _ _ _ _ (errorCodeType (plainPair 0)) _ (makeErrorCode (plainPair 0))
    (fun name => do
      modify (· ++ ["open " ++ name])
      return .error (.ofCategory (plainPair 0) 2 .system))
    (@ResultProgram.orAssignResult _ _ _ _ _ _ (errcType (plainPair 0)) _ id
      (makeErrorCode (plainPair 0))
      (do
        modify (· ++ ["default"])
        return .value "text")
      (.andValue
        (fun text => do
          modify (· ++ ["length"])
          return text.length)
        .done))

theorem plainPair_message (c : StdErrorCategory Bool Empty) (ev : Int32) :
    (c.message (plainPair 0) ev).isSome = true := by
  cases c with
  | generic | system | genericInstance | systemInstance => rfl
  | stdcat c =>
    cases c with
    | generic | system | interop | user u => rfl
  | foreign k => exact k.elim

theorem plainPair_what (ec : ErrorCode Bool Empty) : (ec.what (plainPair 0)).isSome = true := by
  rw [ErrorCode.what, Option.isSome_map, ErrorCode.message]
  split_ifs
  · exact plainPair_message _ _
  · rfl
  · cases ec.category with
    | generic => rfl
    | system => rfl
    | interop => rfl
    | user u => rfl

/-- Three functions are called, and the default has taken the place of the error. -/
theorem results_are_exceptions_default :
    (ResultProgram.caught (F := errorCodeType (plainPair 0)) codeOf
      (lengthProgram.throwing (ExceptT.mk (pure (.ok "a")))) : StateM (List String) _) [] =
      (.value 4, ["open a", "default", "length"]) := by
  have hcaught := (results_are_exceptions (plainPair 0)).2.2.2 lengthProgram
    ⟨fun _ => rfl, fun _ => rfl, trivial⟩ plainPair_what (.value "a")
  exact (congrFun hcaught []).symm

end BoostSystem
