import Mathlib.Algebra.Group.Nat.Defs
import Mathlib.Data.List.Induction
import WebDispatch.Proofs.Stripping
import WebDispatch.Settings

namespace WebDispatch.Settings

/-! ### Digits -/

variable {n : Nat} {c : Char} {cs ds body : List Char} {f : NumberFault}

def AllDigits (ds : List Char) : Prop :=
  ∀ d ∈ ds, d.isDigit = true

def valueOf (ds : List Char) : Nat :=
  Nat.ofDigitChars 10 ds 0

theorem lt_iff_le_maxNumber : n < 2 ^ 64 ↔ n ≤ maxNumber := by
  rw [maxNumber]
  omega

theorem le_ofDigitChars (n : Nat) (ds : List Char) : n ≤ Nat.ofDigitChars 10 ds n := by
  induction ds generalizing n with
  | nil => exact Nat.le_refl n
  | cons d ds ih =>
    rw [Nat.ofDigitChars_cons]
    exact Nat.le_trans (by omega) (ih _)

theorem digits_cons (hc : c.isDigit = true) (n : Nat) (cs : List Char) :
    digits n (c :: cs) =
      if maxNumber < Nat.ofDigitChars 10 [c] n then .error .tooLarge
      else digits (Nat.ofDigitChars 10 [c] n) cs := by
  have hnext : Nat.ofDigitChars 10 [c] n = n * 10 + (c.toNat - 48) := by
    rw [Nat.ofDigitChars_cons, Nat.ofDigitChars_nil, Nat.mul_comm]
    rfl
  rw [digits, hc, Bool.not_true, if_neg Bool.false_ne_true, hnext]

theorem digits_append (hds : AllDigits ds) (hfits : Nat.ofDigitChars 10 ds n ≤ maxNumber)
    (cs : List Char) : digits n (ds ++ cs) = digits (Nat.ofDigitChars 10 ds n) cs := by
  induction ds generalizing n with
  | nil => rfl
  | cons d ds ih =>
    obtain ⟨hd, hds⟩ := List.forall_mem_cons.1 hds
    rw [← List.singleton_append, Nat.ofDigitChars_append] at hfits ⊢
    have hle := Nat.le_trans (le_ofDigitChars _ ds) hfits
    rw [List.singleton_append, List.cons_append, digits_cons hd, if_neg (Nat.not_lt.2 hle),
      ih hds hfits]

theorem digits_of_allDigits (hds : AllDigits ds) (hfits : valueOf ds < 2 ^ 64) :
    digits 0 ds = .ok (valueOf ds) := by
  have h := digits_append hds (lt_iff_le_maxNumber.1 hfits) []
  rw [List.append_nil] at h
  exact h

/-- Where digits break off: at a character that is none, or at one with which the number has more than
64 bits. -/
inductive Breaks : List Char → NumberFault → Prop
  | stray {ds rest : List Char} {c : Char} (hds : AllDigits ds) (hfits : valueOf ds < 2 ^ 64)
      (hc : c.isDigit = false) : Breaks (ds ++ c :: rest) .invalidDigit
  | overflow {ds rest : List Char} {c : Char} (hds : AllDigits (ds ++ [c]))
      (hfits : valueOf ds < 2 ^ 64) (hlarge : 2 ^ 64 ≤ valueOf (ds ++ [c])) :
      Breaks (ds ++ c :: rest) .tooLarge

theorem Breaks.digits_eq (h : Breaks cs f) : digits 0 cs = .error f := by
  cases h with
  | @stray ds rest c hds hfits hc =>
    rw [digits_append hds (lt_iff_le_maxNumber.1 hfits), digits, hc, Bool.not_false, if_pos rfl]
  | @overflow ds rest c hds hfits hlarge =>
    have hc : c.isDigit = true := hds c (List.mem_append_right ds List.mem_cons_self)
    have hlt : maxNumber < valueOf (ds ++ [c]) := Nat.lt_of_not_le
      fun hle ↦ Nat.not_lt.2 hlarge (lt_iff_le_maxNumber.2 hle)
    rw [valueOf, Nat.ofDigitChars_append] at hlt
    rw [digits_append (fun d hd ↦ hds d (List.mem_append_left _ hd))
      (lt_iff_le_maxNumber.1 hfits), digits_cons hc, if_pos hlt]

theorem Breaks.append (h : Breaks cs f) (more : List Char) : Breaks (cs ++ more) f := by
  cases h with
  | stray hds hfits hc =>
    rw [List.append_assoc, List.cons_append]
    exact .stray hds hfits hc
  | overflow hds hfits hlarge =>
    rw [List.append_assoc, List.cons_append]
    exact .overflow hds hfits hlarge

theorem fits_or_breaks (cs : List Char) :
    AllDigits cs ∧ valueOf cs < 2 ^ 64 ∨ ∃ f, Breaks cs f := by
  induction cs using List.reverseRecOn with
  | nil => exact .inl ⟨nofun, by decide⟩
  | append_singleton cs c ih =>
    rcases ih with ⟨hcs, hfits⟩ | ⟨f, hf⟩
    · cases hc : c.isDigit with
      | false => exact .inr ⟨_, .stray hcs hfits hc⟩
      | true =>
        have hall : AllDigits (cs ++ [c]) :=
          List.forall_mem_append.2 ⟨hcs, List.forall_mem_singleton.2 hc⟩
        by_cases hlarge : 2 ^ 64 ≤ valueOf (cs ++ [c])
        · exact .inr ⟨_, .overflow hall hfits hlarge⟩
        · exact .inl ⟨hall, Nat.lt_of_not_le hlarge⟩
    · exact .inr ⟨f, hf.append [c]⟩

/-! ### Numerals -/

inductive Signed : List Char → List Char → Prop
  | plus (body : List Char) : Signed ('+' :: body) body
  | bare {body : List Char} (h : body.head? ≠ some '+') : Signed body body

theorem exists_signed (cs : List Char) : ∃ body, Signed cs body := by
  by_cases h : cs.head? = some '+'
  · obtain ⟨body, rfl⟩ := List.head?_eq_some_iff.1 h
    exact ⟨body, .plus body⟩
  · exact ⟨cs, .bare h⟩

theorem number_of_signed (h : Signed cs body) (hne : body ≠ []) : number cs = digits 0 body := by
  cases h with
  | plus body =>
    cases body with
    | nil => exact absurd rfl hne
    | cons c body => rfl
  | bare h =>
    unfold number
    split
    · exact absurd rfl hne
    · exact absurd rfl h
    · exact absurd rfl h
    · rfl

inductive Numeral : List Char → Nat → Prop
  | intro {cs body : List Char} (hsign : Signed cs body) (hne : body ≠ [])
      (hbody : AllDigits body) : Numeral cs (valueOf body)

/-- What is wrong with a text that is no number of 64 bits. -/
inductive Faulty : List Char → NumberFault → Prop
  | empty : Faulty [] .empty
  | lonePlus : Faulty ['+'] .invalidDigit
  | breaks {cs body : List Char} {f : NumberFault} (hsign : Signed cs body)
      (hbreaks : Breaks body f) : Faulty cs f

theorem Breaks.ne_nil (h : Breaks cs f) : cs ≠ [] := by
  cases h <;> simp

theorem Numeral.number_eq (h : Numeral cs n) (hfits : n < 2 ^ 64) : number cs = .ok n := by
  obtain ⟨hsign, hne, hbody⟩ := h
  rw [number_of_signed hsign hne, digits_of_allDigits hbody hfits]

theorem Faulty.number_eq (h : Faulty cs f) : number cs = .error f := by
  cases h with
  | empty | lonePlus => rfl
  | breaks hsign hbreaks => rw [number_of_signed hsign hbreaks.ne_nil, hbreaks.digits_eq]

theorem numeral_or_faulty (cs : List Char) :
    (∃ n, Numeral cs n ∧ n < 2 ^ 64) ∨ ∃ f, Faulty cs f := by
  obtain ⟨body, hsign⟩ := exists_signed cs
  rcases fits_or_breaks body with ⟨hbody, hfits⟩ | ⟨f, hf⟩
  · by_cases hne : body = []
    · subst hne
      cases hsign with
      | plus => exact .inr ⟨_, .lonePlus⟩
      | bare => exact .inr ⟨_, .empty⟩
    · exact .inl ⟨_, .intro hsign hne hbody, hfits⟩
  · exact .inr ⟨f, .breaks hsign hf⟩

theorem number_eq_ok_iff : number cs = .ok n ↔ Numeral cs n ∧ n < 2 ^ 64 := by
  refine ⟨fun h ↦ ?_, fun ⟨hn, hfits⟩ ↦ hn.number_eq hfits⟩
  rcases numeral_or_faulty cs with ⟨m, hm, hfits⟩ | ⟨f, hf⟩
  · rw [hm.number_eq hfits] at h
    cases h
    exact ⟨hm, hfits⟩
  · rw [hf.number_eq] at h
    cases h

theorem number_eq_error_iff : number cs = .error f ↔ Faulty cs f := by
  refine ⟨fun h ↦ ?_, Faulty.number_eq⟩
  rcases numeral_or_faulty cs with ⟨m, hm, hfits⟩ | ⟨f', hf⟩
  · rw [hm.number_eq hfits] at h
    cases h
  · rw [hf.number_eq] at h
    cases h
    exact hf

/-! ### Texts -/

variable {key text message : String} {lookup : String → Option String} {default m : Nat} {e : Error}

def Trims (text : String) (cs : List Char) : Prop :=
  Text.Bare Text.isBlank cs ∧ ∃ front back, (∀ c ∈ front, Text.isBlank c = true) ∧
    (∀ c ∈ back, Text.isBlank c = true) ∧ text.toList = front ++ cs ++ back

/-- A text is a number in decimal, blanks at its ends apart. -/
def Says (text : String) (n : Nat) : Prop :=
  ∃ cs, Trims text cs ∧ Numeral cs n

theorem trims_iff : Trims text cs ↔ cs = Text.strip Text.isBlank text.toList :=
  Text.strip_eq_iff.symm.trans eq_comm

theorem numberOf_eq_ok_iff : numberOf key text = .ok n ↔ Says text n ∧ n < 2 ^ 64 := by
  have hsaid : Says text n ↔ Numeral (Text.strip Text.isBlank text.toList) n := by
    simp only [Says, trims_iff, exists_eq_left]
  rw [hsaid, ← number_eq_ok_iff, numberOf]
  cases number (Text.strip Text.isBlank text.toList) <;> simp

theorem numberOf_eq_error_iff : numberOf key text = .error e ↔
    ∃ cs f, Trims text cs ∧ Faulty cs f ∧ .settings key f.message = e := by
  simp only [trims_iff, exists_and_left, exists_eq_left, ← number_eq_error_iff]
  rw [numberOf]
  cases number (Text.strip Text.isBlank text.toList) <;> simp

theorem says_toString (n : Nat) : Says (toString n) n := by
  have htext : (toString n).toList = Nat.toDigits 10 n := by
    rw [Nat.toString_eq_ofList_toDigits, String.toList_ofList]
  have hdigits : AllDigits (Nat.toDigits 10 n) :=
    fun d hd ↦ Nat.isDigit_of_mem_toDigits (by decide) (by decide) hd
  have hbare : ∀ d ∈ Nat.toDigits 10 n, Text.isBlank d = false := by
    intro d hd
    refine Text.not_blank_of_alphanum ?_
    rw [Char.isAlphanum, hdigits d hd, Bool.or_true]
  have hplain : (Nat.toDigits 10 n).head? ≠ some '+' := by
    intro h
    exact absurd (hdigits '+' (List.mem_of_head? h)) (by decide)
  have hvalue : valueOf (Nat.toDigits 10 n) = n := Nat.ofDigitChars_ten_toDigits
  refine ⟨Nat.toDigits 10 n, ⟨Text.bare_of_forall hbare, [], [], nofun, nofun, ?_⟩, ?_⟩
  · rw [htext, List.nil_append, List.append_nil]
  · have hnumeral := Numeral.intro (.bare hplain) Nat.toDigits_ne_nil hdigits
    rwa [hvalue] at hnumeral

/-! ### Variables -/

def numberKeys : List String :=
  [workerThreadsKey, maxBodyBytesKey, sessionTimeoutKey]

def Admits (key : String) (n : Nat) : Prop :=
  n < 2 ^ 64 ∧ (key = workerThreadsKey → n ≠ 0)

/-- What is said about a text that a variable may not hold. -/
inductive Complaint (key text : String) : String → Prop
  | fault {cs : List Char} {f : NumberFault} (htrims : Trims text cs) (hf : Faulty cs f) :
      Complaint key text f.message
  | zero (hkey : key = workerThreadsKey) (hsaid : Says text 0) :
      Complaint key text "must be at least 1"

theorem bind_eq_ok_iff {ε α β : Type} {x : Except ε α} {f : α → Except ε β} {b : β} :
    x.bind f = .ok b ↔ ∃ a, x = .ok a ∧ f a = .ok b := by
  cases x <;> simp [Except.bind]

theorem bind_eq_error_iff {ε α β : Type} {x : Except ε α} {f : α → Except ε β} {e : ε} :
    x.bind f = .error e ↔ x = .error e ∨ ∃ a, x = .ok a ∧ f a = .error e := by
  cases x <;> simp [Except.bind]

/-- A text is read exactly if it says a number that its variable may hold, and otherwise the complaint
about it is the error. -/
structure Reads (key : String) (value : Nat → Nat) (read : String → Except Error Nat) : Prop where
  ok_iff : ∀ text m, read text = .ok m ↔ ∃ n, Says text n ∧ Admits key n ∧ value n = m
  error_iff : ∀ text e, read text = .error e ↔
    ∃ message, Complaint key text message ∧ .settings key message = e

variable {value : Nat → Nat} {read : String → Except Error Nat} {keys : List String}

theorem admits_or_eq_zero (key : String) (hfits : n < 2 ^ 64) :
    Admits key n ∨ key = workerThreadsKey ∧ n = 0 := by
  by_cases h : key = workerThreadsKey ∧ n = 0
  · exact .inr h
  · exact .inl ⟨hfits, fun hkey hzero ↦ h ⟨hkey, hzero⟩⟩

theorem reads_bind_numberOf {check : Nat → Except Error Nat}
    (hadmitted : ∀ n, Admits key n → check n = .ok (value n))
    (hzero : key = workerThreadsKey → check 0 = .error (.settings key "must be at least 1")) :
    Reads key value fun text ↦ (numberOf key text).bind check where
  ok_iff text m := by
    rw [bind_eq_ok_iff]
    constructor
    · intro ⟨n, hn, hm⟩
      obtain ⟨hsaid, hfits⟩ := numberOf_eq_ok_iff.1 hn
      obtain hadmits | ⟨hkey, rfl⟩ := admits_or_eq_zero key hfits
      · rw [hadmitted n hadmits] at hm
        exact ⟨n, hsaid, hadmits, Except.ok.inj hm⟩
      · rw [hzero hkey] at hm
        cases hm
    · intro ⟨n, hsaid, hadmits, hm⟩
      refine ⟨n, numberOf_eq_ok_iff.2 ⟨hsaid, hadmits.1⟩, ?_⟩
      rw [hadmitted n hadmits, hm]
  error_iff text e := by
    rw [bind_eq_error_iff]
    constructor
    · rintro (he | ⟨n, hn, he⟩)
      · obtain ⟨cs, f, htrims, hf, he⟩ := numberOf_eq_error_iff.1 he
        exact ⟨_, .fault htrims hf, he⟩
      · obtain ⟨hsaid, hfits⟩ := numberOf_eq_ok_iff.1 hn
        obtain hadmits | ⟨hkey, rfl⟩ := admits_or_eq_zero key hfits
        · rw [hadmitted n hadmits] at he
          cases he
        · rw [hzero hkey] at he
          exact ⟨_, .zero hkey hsaid, Except.error.inj he⟩
    · intro ⟨message, hcomplaint, he⟩
      cases hcomplaint with
      | @fault cs f htrims hf => exact .inl (numberOf_eq_error_iff.2 ⟨cs, f, htrims, hf, he⟩)
      | zero hkey hsaid =>
        refine .inr ⟨0, numberOf_eq_ok_iff.2 ⟨hsaid, by decide⟩, ?_⟩
        rw [hzero hkey, he]

theorem reads_workerThreadsOf : Reads workerThreadsKey id workerThreadsOf := by
  have heq : workerThreadsOf = fun text ↦ (numberOf workerThreadsKey text).bind fun n ↦
      if n = 0 then .error (.settings workerThreadsKey "must be at least 1") else .ok n := by
    funext text
    rw [workerThreadsOf]
    cases numberOf workerThreadsKey text with
    | error e => rfl
    | ok n => cases n <;> rfl
  rw [heq]
  exact reads_bind_numberOf (fun n hadmits ↦ if_neg (hadmits.2 rfl)) fun _ ↦ if_pos rfl

theorem reads_map_numberOf (hkey : key ≠ workerThreadsKey) (value : Nat → Nat) :
    Reads key value fun text ↦ (numberOf key text).map value := by
  have heq : (fun text ↦ (numberOf key text).map value) =
      fun text ↦ (numberOf key text).bind fun n ↦ .ok (value n) := by
    funext text
    cases numberOf key text <;> rfl
  rw [heq]
  exact reads_bind_numberOf (fun _ _ ↦ rfl) fun h ↦ absurd h hkey

theorem reads_maxBodyBytes : Reads maxBodyBytesKey id (numberOf maxBodyBytesKey) := by
  have heq : numberOf maxBodyBytesKey = fun text ↦ (numberOf maxBodyBytesKey text).map id :=
    funext fun text ↦ by rw [Except.map_id, id]
  rw [heq]
  exact reads_map_numberOf (by decide) id

theorem reads_sessionTimeout : Reads sessionTimeoutKey (· * 1000)
    fun text ↦ (numberOf sessionTimeoutKey text).map (· * 1000) :=
  reads_map_numberOf (by decide) _

/-- What a variable gives: its default if it is unset, and otherwise the number in its text. -/
inductive Gives (lookup : String → Option String) (key : String) (default : Nat) : Nat → Prop
  | unset (h : lookup key = none) : Gives lookup key default default
  | set {text : String} {n : Nat} (h : lookup key = some text) (hsaid : Says text n)
      (hadmits : Admits key n) : Gives lookup key default n

def Acceptable (lookup : String → Option String) (key : String) : Prop :=
  ∀ text, lookup key = some text → ∃ n, Says text n ∧ Admits key n

/-- The complaint about the first of some variables that has a text it may not hold. -/
inductive Blames (lookup : String → Option String) : List String → Error → Prop
  | first {key text message : String} {keys : List String} (hset : lookup key = some text)
      (hnone : ∀ n, Says text n → ¬ Admits key n) (hcomplaint : Complaint key text message) :
      Blames lookup (key :: keys) (.settings key message)
  | later {key : String} {keys : List String} {e : Error} (haccepts : Acceptable lookup key)
      (h : Blames lookup keys e) : Blames lookup (key :: keys) e

theorem exists_gives_iff : (∃ n, Gives lookup key default n) ↔ Acceptable lookup key := by
  constructor
  · rintro ⟨n, hn⟩ text htext
    cases hn with
    | unset h =>
      rw [h] at htext
      cases htext
    | set h hsaid hadmits =>
      rw [h] at htext
      cases htext
      exact ⟨n, hsaid, hadmits⟩
  · intro h
    cases htext : lookup key with
    | none => exact ⟨default, .unset htext⟩
    | some text =>
      obtain ⟨n, hsaid, hadmits⟩ := h text htext
      exact ⟨n, .set htext hsaid hadmits⟩

namespace Reads

theorem not_admits (h : Reads key value read) (hcomplaint : Complaint key text message) :
    ∀ n, Says text n → ¬ Admits key n := by
  intro n hsaid hadmits
  have hok := (h.ok_iff text (value n)).2 ⟨n, hsaid, hadmits, rfl⟩
  rw [(h.error_iff text _).2 ⟨message, hcomplaint, rfl⟩] at hok
  cases hok

theorem setting_eq_ok_iff (h : Reads key value read) :
    setting (lookup key) (value default) read = .ok m ↔
      ∃ n, Gives lookup key default n ∧ value n = m := by
  cases htext : lookup key with
  | none =>
    constructor
    · intro hm
      exact ⟨default, .unset htext, Except.ok.inj hm⟩
    · rintro ⟨n, hn, hm⟩
      cases hn with
      | unset => exact congrArg Except.ok hm
      | set hset => simp [htext] at hset
  | some text =>
    rw [setting, h.ok_iff]
    constructor
    · intro ⟨n, hsaid, hadmits, hm⟩
      exact ⟨n, .set htext hsaid hadmits, hm⟩
    · rintro ⟨n, hn, hm⟩
      cases hn with
      | unset hnone => simp [htext] at hnone
      | set hset hsaid hadmits =>
        cases htext.symm.trans hset
        exact ⟨n, hsaid, hadmits, hm⟩

theorem setting_eq_error_iff {default : Nat} (h : Reads key value read) :
    setting (lookup key) default read = .error e ↔ ∃ text message,
      lookup key = some text ∧ Complaint key text message ∧ .settings key message = e := by
  cases htext : lookup key with
  | none => simp [setting]
  | some text => simp [setting, h.error_iff]

theorem bind_eq_ok_iff {α : Type} {f : Nat → Except Error α} {a : α} (h : Reads key value read) :
    (setting (lookup key) (value default) read).bind f = .ok a ↔
      ∃ n, Gives lookup key default n ∧ f (value n) = .ok a := by
  rw [Settings.bind_eq_ok_iff]
  constructor
  · intro ⟨m, hm, ha⟩
    obtain ⟨n, hn, rfl⟩ := h.setting_eq_ok_iff.1 hm
    exact ⟨n, hn, ha⟩
  · intro ⟨n, hn, ha⟩
    exact ⟨value n, h.setting_eq_ok_iff.2 ⟨n, hn, rfl⟩, ha⟩

theorem bind_eq_error_iff {α : Type} {f : Nat → Except Error α} (h : Reads key value read)
    (hf : ∀ m, f m = .error e ↔ Blames lookup keys e) :
    (setting (lookup key) (value default) read).bind f = .error e ↔
      Blames lookup (key :: keys) e := by
  rw [Settings.bind_eq_error_iff, h.setting_eq_error_iff]
  constructor
  · rintro (⟨text, message, hset, hcomplaint, rfl⟩ | ⟨m, hm, he⟩)
    · exact .first hset (h.not_admits hcomplaint) hcomplaint
    · obtain ⟨n, hn, -⟩ := h.setting_eq_ok_iff.1 hm
      exact .later (exists_gives_iff.1 ⟨n, hn⟩) ((hf m).1 he)
  · intro hblames
    cases hblames with
    | first hset hnone hcomplaint => exact .inl ⟨_, _, hset, hcomplaint, rfl⟩
    | later haccepts hlater =>
      obtain ⟨n, hn⟩ := exists_gives_iff.2 haccepts
      exact .inr ⟨value n, h.setting_eq_ok_iff.2 ⟨n, hn, rfl⟩, (hf _).2 hlater⟩

end Reads

/-! ### Settings -/

variable {processors : Nat} {settings : Settings}

theorem ofLookup_eq (processors : Nat) (lookup : String → Option String) :
    ofLookup processors lookup =
      (setting (lookup workerThreadsKey) processors workerThreadsOf).bind fun threads ↦
        (setting (lookup maxBodyBytesKey) (10 * 1024 * 1024) (numberOf maxBodyBytesKey)).bind
          fun bytes ↦
            (setting (lookup sessionTimeoutKey) (30 * 60 * 1000) fun text ↦
              (numberOf sessionTimeoutKey text).map (· * 1000)).bind fun timeout ↦
                .ok {
                  workerThreads := threads
                  maxBodyBytes := bytes
                  sessionTimeout := timeout
                  sessionCookie := (lookup sessionCookieKey).getD "SWITCHYARDSESSION"
                  templateDir := (lookup templateDirKey).getD "templates" } := rfl

/-- Settings that variables and defaults come to. The timeout is given in seconds. -/
structure Given (processors : Nat) (lookup : String → Option String) (settings : Settings) :
    Prop where
  workerThreads : Gives lookup workerThreadsKey processors settings.workerThreads
  maxBodyBytes : Gives lookup maxBodyBytesKey (10 * 1024 * 1024) settings.maxBodyBytes
  sessionTimeout : ∃ seconds, Gives lookup sessionTimeoutKey (30 * 60) seconds ∧
    settings.sessionTimeout = seconds * 1000
  sessionCookie : settings.sessionCookie = (lookup sessionCookieKey).getD "SWITCHYARDSESSION"
  templateDir : settings.templateDir = (lookup templateDirKey).getD "templates"

theorem ofLookup_eq_ok_iff :
    ofLookup processors lookup = .ok settings ↔ Given processors lookup settings := by
  rw [ofLookup_eq]
  constructor
  · intro h
    obtain ⟨threads, hthreads, h⟩ := reads_workerThreadsOf.bind_eq_ok_iff.1 h
    obtain ⟨bytes, hbytes, h⟩ := reads_maxBodyBytes.bind_eq_ok_iff.1 h
    obtain ⟨seconds, hseconds, h⟩ := reads_sessionTimeout.bind_eq_ok_iff.1 h
    cases h
    exact ⟨hthreads, hbytes, ⟨seconds, hseconds, rfl⟩, rfl, rfl⟩
  · rintro ⟨hthreads, hbytes, ⟨seconds, hseconds, htimeout⟩, hcookie, hdir⟩
    refine reads_workerThreadsOf.bind_eq_ok_iff.2 ⟨_, hthreads, ?_⟩
    refine reads_maxBodyBytes.bind_eq_ok_iff.2 ⟨_, hbytes, ?_⟩
    refine reads_sessionTimeout.bind_eq_ok_iff.2 ⟨_, hseconds, ?_⟩
    rw [← hcookie, ← hdir, ← htimeout]
    rfl

theorem ofLookup_eq_error_iff :
    ofLookup processors lookup = .error e ↔ Blames lookup numberKeys e := by
  rw [ofLookup_eq]
  exact reads_workerThreadsOf.bind_eq_error_iff fun _ ↦
    reads_maxBodyBytes.bind_eq_error_iff fun _ ↦
      reads_sessionTimeout.bind_eq_error_iff fun _ ↦ ⟨nofun, nofun⟩

theorem exists_ofLookup_iff : (∃ settings, ofLookup processors lookup = .ok settings) ↔
    ∀ key ∈ numberKeys, Acceptable lookup key := by
  simp only [ofLookup_eq_ok_iff, numberKeys, List.forall_mem_cons]
  constructor
  · rintro ⟨settings, hthreads, hbytes, ⟨seconds, hseconds, -⟩, -, -⟩
    exact ⟨exists_gives_iff.1 ⟨_, hthreads⟩, exists_gives_iff.1 ⟨_, hbytes⟩,
      exists_gives_iff.1 ⟨_, hseconds⟩, nofun⟩
  · rintro ⟨hthreads, hbytes, hseconds, -⟩
    obtain ⟨threads, hthreads⟩ := exists_gives_iff.2 hthreads
    obtain ⟨bytes, hbytes⟩ := exists_gives_iff.2 hbytes
    obtain ⟨seconds, hseconds⟩ := exists_gives_iff.2 hseconds
    exact ⟨⟨threads, bytes, _, seconds * 1000, _⟩, hthreads, hbytes, ⟨seconds, hseconds, rfl⟩,
      rfl, rfl⟩

theorem gives_of_toString {number? : Option Nat} (hset : lookup key = number?.map toString)
    (hadmits : ∀ n ∈ number?, Admits key n) :
    Gives lookup key default (number?.getD default) := by
  cases number? with
  | none => exact .unset hset
  | some n => exact .set hset (says_toString n) (hadmits n rfl)

/-- Settings are read exactly: with success if and only if every variable of a number that is set has
a text that says one it may hold, and then they are those numbers, the other two variables as they
are, and the defaults for what is unset. Otherwise the error is the complaint about the first variable
with another text. A number in decimal is read back. -/
theorem ofLookup_exact (processors : Nat) (lookup : String → Option String) :
    ((∃ settings, ofLookup processors lookup = .ok settings) ↔
      ∀ key ∈ numberKeys, Acceptable lookup key) ∧
    (∀ settings, ofLookup processors lookup = .ok settings ↔ Given processors lookup settings) ∧
    (∀ e, ofLookup processors lookup = .error e ↔ Blames lookup numberKeys e) ∧
    ∀ threads bytes seconds : Option Nat,
      (∀ n ∈ threads, n ≠ 0 ∧ n < 2 ^ 64) → (∀ n ∈ bytes, n < 2 ^ 64) →
      (∀ n ∈ seconds, n < 2 ^ 64) → lookup workerThreadsKey = threads.map toString →
      lookup maxBodyBytesKey = bytes.map toString →
      lookup sessionTimeoutKey = seconds.map toString →
      ofLookup processors lookup = .ok {
        workerThreads := threads.getD processors
        maxBodyBytes := bytes.getD (10 * 1024 * 1024)
        sessionTimeout := seconds.getD (30 * 60) * 1000
        sessionCookie := (lookup sessionCookieKey).getD "SWITCHYARDSESSION"
        templateDir := (lookup templateDirKey).getD "templates" } := by
  refine ⟨exists_ofLookup_iff, fun _ ↦ ofLookup_eq_ok_iff, fun _ ↦ ofLookup_eq_error_iff, ?_⟩
  intro threads bytes seconds hthreads hbytes hseconds hthreadsSet hbytesSet hsecondsSet
  refine ofLookup_eq_ok_iff.2 ⟨?_, ?_, ⟨_, ?_, rfl⟩, rfl, rfl⟩
  · exact gives_of_toString hthreadsSet fun n hn ↦ ⟨(hthreads n hn).2, fun _ ↦ (hthreads n hn).1⟩
  · exact gives_of_toString hbytesSet fun n hn ↦ ⟨hbytes n hn, fun h ↦ absurd h (by decide)⟩
  · exact gives_of_toString hsecondsSet fun n hn ↦ ⟨hseconds n hn, fun h ↦ absurd h (by decide)⟩

example : numberOf maxBodyBytesKey "\t+0018446744073709551615 " = .ok (2 ^ 64 - 1) := rfl

end WebDispatch.Settings
