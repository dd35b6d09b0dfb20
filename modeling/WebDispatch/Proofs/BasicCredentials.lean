import Mathlib.Data.List.Basic
import WebDispatch.Authentication
import WebDispatch.Proofs.Base64Coding
import WebDispatch.Proofs.HeaderText
import WebDispatch.Text.Case

namespace WebDispatch

open Http

variable {σ : Type}

namespace BasicAuthenticator

/-! ### Credentials in a header -/

/-- Credentials as a header carries them: the scheme in any case, one blank, and a token, for which
blanks around it do not count. The token is the Base64 of a name and a password with a colon between
them, and the name has no colon. -/
inductive Carries : String → String → String → Prop
  | intro {scheme token user password : String} (first : ' ' ∉ scheme.toList)
      (basic : Text.lower scheme = "basic")
      (encoded : Text.trim token =
        .ofList (Text.Base64.encode (Text.Utf8.encode (user ++ ":" ++ password))))
      (name : ':' ∉ user.toList) : Carries (scheme ++ " " ++ token) user password

theorem lower_eq_basic_iff {scheme : String} :
    Text.lower scheme = "basic" ↔ scheme.toList.map Char.toLower = "basic".toList := by
  rw [← String.toList_inj, Text.lower, String.toList_ofList]

theorem trim_eq_iff {token : String} {cs : List Char} :
    Text.trim token = .ofList cs ↔ Text.strip Text.isBlank token.toList = cs := by
  rw [Text.trim, String.ofList_inj]

theorem credentials_eq_some_iff {header user password : String} :
    credentials header = some (user, password) ↔ Carries header user password := by
  have hread : credentials header = some (user, password) ↔
      ∃ scheme token, Text.cut ' ' header = some (scheme, token) ∧
        scheme.toList.map Char.toLower = "basic".toList ∧
        ∃ bytes, Text.Base64.decode (Text.strip Text.isBlank token.toList) = some bytes ∧
          ∃ text, Text.Utf8.decode? bytes = some text ∧
            Text.cut ':' text = some (user, password) := by
    simp only [credentials, Option.bind_eq_bind, Option.bind_eq_some_iff, Prod.exists, guard]
    simp
  rw [hread]
  constructor
  · intro ⟨scheme, token, hheader, hbasic, bytes, hbytes, text, htext, hcolon⟩
    obtain ⟨rfl, hfirst⟩ := Text.cut_eq_some_iff.1 hheader
    obtain ⟨rfl, hname⟩ := Text.cut_eq_some_iff.1 hcolon
    refine .intro hfirst (lower_eq_basic_iff.2 hbasic) (trim_eq_iff.2 ?_) hname
    rw [Text.Base64.decode_eq_some_iff.1 hbytes, Text.Utf8.decode?_eq_some_iff.1 htext]
    rfl
  · intro h
    cases h with
    | @intro scheme token user password first basic encoded name =>
      refine ⟨scheme, token, Text.cut_eq_some_iff.2 ⟨rfl, first⟩, lower_eq_basic_iff.1 basic,
        Text.Utf8.encode (user ++ ":" ++ password), ?_, user ++ ":" ++ password, ?_, ?_⟩
      · rw [trim_eq_iff.1 encoded, Text.Base64.decode_encode]
      · exact Text.Utf8.decode?_eq_some_iff.2 rfl
      · exact Text.cut_eq_some_iff.2 ⟨rfl, name⟩

example : credentials "bAsIc  YW5uOmE6Yg== " = some ("ann", "a:b") := by cbv

theorem Carries.unique {header user user' password password' : String}
    (h : Carries header user password) (h' : Carries header user' password') :
    user = user' ∧ password = password' := by
  have hread := credentials_eq_some_iff.2 h
  rw [credentials_eq_some_iff.2 h'] at hread
  cases hread
  exact ⟨rfl, rfl⟩

/-- A request presents what its first header of authorization carries, if that is a text. -/
def Presents (x : Exchange) (user password : String) : Prop :=
  ∃ value values header, x.request.headers.getAll .authorization = value :: values ∧
    value.bytes = Text.Utf8.encode header ∧ (∀ c ∈ header.toList, HeaderValue.IsVisible c) ∧
    Carries header user password

theorem presents_iff {x : Exchange} {user password : String} :
    Presents x user password ↔
      ∃ value, x.request.headers.get? .authorization = some value ∧
        ∃ header, value.text? = some header ∧ credentials header = some (user, password) := by
  simp only [Presents, HeaderValue.text?_eq_some_iff, credentials_eq_some_iff, Headers.get?,
    List.head?_eq_some_iff]
  constructor
  · intro ⟨value, values, header, hall, hbytes, hvisible, hcarries⟩
    exact ⟨value, ⟨values, hall⟩, header, ⟨hbytes, hvisible⟩, hcarries⟩
  · intro ⟨value, ⟨values, hall⟩, header, ⟨hbytes, hvisible⟩, hcarries⟩
    exact ⟨value, values, header, hall, hbytes, hvisible, hcarries⟩

theorem Carries.presents {x : Exchange} {header user password : String}
    (h : Carries header user password) (hvisible : ∀ c ∈ header.toList, HeaderValue.IsVisible c)
    (hx : x.request.headers.get? .authorization = some ⟨Text.Utf8.encode header⟩) :
    Presents x user password := by
  rw [presents_iff]
  refine ⟨_, hx, header, ?_, credentials_eq_some_iff.2 h⟩
  exact HeaderValue.text?_eq_some_iff.2 ⟨rfl, hvisible⟩

theorem Presents.unique {x : Exchange} {user user' password password' : String}
    (h : Presents x user password) (h' : Presents x user' password') :
    user = user' ∧ password = password' := by
  obtain ⟨value, hvalue, header, hheader, hread⟩ := presents_iff.1 h
  obtain ⟨value', hvalue', header', hheader', hread'⟩ := presents_iff.1 h'
  obtain rfl : value = value' := Option.some.inj (hvalue.symm.trans hvalue')
  obtain rfl : header = header' := Option.some.inj (hheader.symm.trans hheader')
  exact (credentials_eq_some_iff.1 hread).unique (credentials_eq_some_iff.1 hread')

/-! ### Users -/

structure User where
  name : String
  password : String
  roles : List String

def User.principal (u : User) : Principal :=
  ⟨u.name, .ofList u.roles⟩

def User.identity (u : User) : Identity :=
  ⟨u.password, u.principal⟩

def withUsers (b : BasicAuthenticator) (users : List User) : BasicAuthenticator :=
  users.foldl (fun b u ↦ b.withUser u.name u.password u.roles) b

/-- The last user of its name. -/
def IsCurrent (users : List User) (u : User) : Prop :=
  ∃ before after, users = before ++ u :: after ∧ ∀ v ∈ after, v.name ≠ u.name

theorem isCurrent_or_forall_ne (users : List User) (name : String) :
    (∃ u, IsCurrent users u ∧ u.name = name) ∨ ∀ u ∈ users, u.name ≠ name := by
  induction users with
  | nil => exact .inr nofun
  | cons v users ih =>
    rcases ih with ⟨u, ⟨before, after, hsplit, hafter⟩, hu⟩ | hnone
    · exact .inl ⟨u, ⟨v :: before, after, by rw [hsplit, List.cons_append], hafter⟩, hu⟩
    · by_cases hv : v.name = name
      · exact .inl ⟨v, ⟨[], users, rfl, hv ▸ hnone⟩, hv⟩
      · exact .inr (List.forall_mem_cons.2 ⟨hv, hnone⟩)

theorem get?_withUsers_of_forall_ne (b : BasicAuthenticator) {users : List User} {name : String}
    (h : ∀ u ∈ users, u.name ≠ name) :
    (b.withUsers users).identities.get? name = b.identities.get? name := by
  induction users generalizing b with
  | nil => rfl
  | cons v users ih =>
    obtain ⟨hv, husers⟩ := List.forall_mem_cons.1 h
    have hrest := ih (b.withUser v.name v.password v.roles) husers
    refine hrest.trans ?_
    rw [withUser, Table.get?_insert, if_neg (Ne.symm hv)]

theorem IsCurrent.get? {users : List User} {u : User} (h : IsCurrent users u)
    (b : BasicAuthenticator) :
    (b.withUsers users).identities.get? u.name = some u.identity := by
  obtain ⟨before, after, rfl, hafter⟩ := h
  rw [withUsers, List.foldl_append, List.foldl_cons]
  refine (get?_withUsers_of_forall_ne _ hafter).trans ?_
  rw [withUser, Table.get?_insert, if_pos rfl]
  rfl

def ofUsers (realm : String) (users : List User) : BasicAuthenticator :=
  withUsers { realm } users

variable {realm : String} {users : List User} {x : Exchange} {p : Principal}

theorem get?_ofUsers_eq_some_iff {name : String} {identity : Identity} :
    (ofUsers realm users).identities.get? name = some identity ↔
      ∃ u, IsCurrent users u ∧ u.name = name ∧ u.identity = identity := by
  constructor
  · intro h
    rcases isCurrent_or_forall_ne users name with ⟨u, hu, rfl⟩ | hnone
    · rw [ofUsers, hu.get?] at h
      exact ⟨u, hu, rfl, Option.some.inj h⟩
    · rw [ofUsers, get?_withUsers_of_forall_ne _ hnone] at h
      cases h
  · intro ⟨u, hu, hname, hidentity⟩
    rw [← hname, ofUsers, hu.get?, hidentity]

theorem accepted_eq_some_iff :
    (ofUsers realm users).accepted x = some p ↔
      ∃ u, IsCurrent users u ∧ Presents x u.name u.password ∧ u.principal = p := by
  have hread : (ofUsers realm users).accepted x = some p ↔
      ∃ user password, Presents x user password ∧ ∃ identity,
        (ofUsers realm users).identities.get? user = some identity ∧
        identity.password = password ∧ identity.principal = p := by
    simp only [accepted, presents_iff, Option.bind_eq_bind, Option.bind_eq_some_iff, Prod.exists,
      guard]
    constructor
    · intro ⟨value, hvalue, header, hheader, user, password, hcredentials, identity, hidentity, h⟩
      refine ⟨user, password, ⟨value, hvalue, header, hheader, hcredentials⟩, identity, hidentity,
        ?_⟩
      simpa using h
    · intro ⟨user, password, ⟨value, hvalue, header, hheader, hcredentials⟩, identity, hidentity, h⟩
      refine ⟨value, hvalue, header, hheader, user, password, hcredentials, identity, hidentity,
        ?_⟩
      simpa using h
  rw [hread]
  constructor
  · intro ⟨user, password, hpresents, identity, hidentity, hpassword, hp⟩
    obtain ⟨u, hu, rfl, rfl⟩ := get?_ofUsers_eq_some_iff.1 hidentity
    obtain rfl : u.password = password := hpassword
    exact ⟨u, hu, hpresents, hp⟩
  · intro ⟨u, hu, hpresents, hp⟩
    exact ⟨u.name, u.password, hpresents, u.identity, get?_ofUsers_eq_some_iff.2 ⟨u, hu, rfl, rfl⟩,
      rfl, hp⟩

/-! ### The challenge -/

def demand (realm : String) : String :=
  "Basic realm=\"" ++ realm ++ "\""

/-- The headers of a challenge, in which a realm that is illegal in a header is left out. -/
def demandIn (realm : String) (headers : Headers) : Headers :=
  match HeaderValue.parse? (demand realm) with
  | some value => headers.insert .wwwAuthenticate value
  | none => headers

theorem challenge_eq (b : BasicAuthenticator) (x : Exchange) :
    b.challenge x =
      { x with status := 401, ended := true, headers := demandIn b.realm x.headers } := by
  have hname : HeaderName.parse? HeaderName.wwwAuthenticate.text = some .wwwAuthenticate := by
    decide
  simp only [challenge, Exchange.setHeader, headerPair, hname, demandIn, demand]
  cases HeaderValue.parse? ("Basic realm=\"" ++ b.realm ++ "\"") <;> rfl

theorem erase_demandIn (realm : String) (headers : Headers) :
    (demandIn realm headers).erase .wwwAuthenticate = headers.erase .wwwAuthenticate := by
  unfold demandIn
  split
  · simp [Headers.insert, Headers.append, Headers.erase]
  · rfl

theorem getAll_demandIn {value : HeaderValue} (h : HeaderValue.parse? (demand realm) = some value)
    (headers : Headers) : (demandIn realm headers).getAll .wwwAuthenticate = [value] := by
  rw [demandIn, h]
  exact (headers.getAll_insert _ _ value).trans (if_pos rfl)

/-! ### Logging in -/

def login (u : User) : String :=
  "Basic " ++ .ofList (Text.Base64.encode (Text.Utf8.encode (u.name ++ ":" ++ u.password)))

theorem isVisible_of_mem_encode {bs : Bytes} {c : Char} (h : c ∈ Text.Base64.encode bs) :
    HeaderValue.IsVisible c ∧ Text.isBlank c = false := by
  have hletters : ∀ n < 64, HeaderValue.IsVisible (Text.Base64.letter n) ∧
      Text.isBlank (Text.Base64.letter n) = false := by
    decide
  rcases Text.Base64.mem_encode h with rfl | ⟨n, hn, rfl⟩
  · decide
  · exact hletters n hn

theorem isVisible_of_mem_login {u : User} {c : Char} (h : c ∈ (login u).toList) :
    HeaderValue.IsVisible c := by
  have hscheme : "Basic ".toList.all fun c ↦ HeaderValue.IsVisible c := by decide
  rw [login, String.toList_append] at h
  rcases List.mem_append.1 h with hc | hc
  · exact of_decide_eq_true (List.all_eq_true.1 hscheme c hc)
  · rw [String.toList_ofList] at hc
    exact (isVisible_of_mem_encode hc).1

theorem carries_login {u : User} (h : ':' ∉ u.name.toList) :
    Carries (login u) u.name u.password := by
  have hscheme : "Basic " = "Basic" ++ " " := by rw [← String.toList_inj]; rfl
  rw [login, hscheme]
  refine .intro (by decide) (lower_eq_basic_iff.2 (by decide)) ?_ h
  rw [trim_eq_iff, String.toList_ofList]
  exact Text.strip_eq_self fun c hc ↦ (isVisible_of_mem_encode hc).2

/-! ### Who is let in -/

theorem toAuthenticator_of_current {s : Scene σ} {u : User} (hu : IsCurrent users u)
    (h : Presents s.exchange u.name u.password) :
    (ofUsers realm users).toAuthenticator s = (.ok (.authenticated (some u.principal)), s) := by
  have haccepted : (ofUsers realm users).accepted s.exchange = some u.principal :=
    accepted_eq_some_iff.2 ⟨u, hu, h, rfl⟩
  simp only [toAuthenticator, Run.ofState, authenticate, haccepted]

theorem realm_withUsers (b : BasicAuthenticator) (users : List User) :
    (b.withUsers users).realm = b.realm := by
  induction users generalizing b with
  | nil => rfl
  | cons u users ih => exact ih (b.withUser u.name u.password u.roles)

theorem toAuthenticator_of_not_current {s : Scene σ}
    (h : ∀ u, IsCurrent users u → ¬ Presents s.exchange u.name u.password) :
    (ofUsers realm users).toAuthenticator s = (.ok .refused, { s with exchange :=
      { s.exchange with
        status := 401, ended := true, headers := demandIn realm s.exchange.headers } }) := by
  have hnone : (ofUsers realm users).accepted s.exchange = none := by
    refine Option.eq_none_iff_forall_ne_some.2 ?_
    intro p hp
    obtain ⟨u, hu, hpresents, -⟩ := accepted_eq_some_iff.1 hp
    exact h u hu hpresents
  have hrealm : (ofUsers realm users).realm = realm := realm_withUsers _ users
  simp only [toAuthenticator, Run.ofState, authenticate, hnone, challenge_eq, hrealm]

theorem toAuthenticator_eq_iff {s t : Scene σ} {principal : Option Principal} :
    (ofUsers realm users).toAuthenticator s = (.ok (.authenticated principal), t) ↔ t = s ∧
      ∃ u, IsCurrent users u ∧ Presents s.exchange u.name u.password ∧
        principal = some u.principal := by
  constructor
  · intro h
    by_cases hcurrent : ∃ u, IsCurrent users u ∧ Presents s.exchange u.name u.password
    · obtain ⟨u, hu, hpresents⟩ := hcurrent
      rw [toAuthenticator_of_current hu hpresents] at h
      cases h
      exact ⟨rfl, u, hu, hpresents, rfl⟩
    · rw [toAuthenticator_of_not_current fun u hu hpresents ↦ hcurrent ⟨u, hu, hpresents⟩] at h
      cases h
  · intro ⟨ht, u, hu, hpresents, hprincipal⟩
    rw [ht, hprincipal, toAuthenticator_of_current hu hpresents]

/-- A client is let in, as the principal of a user, exactly if its first header of authorization
carries the name and the password of the user who was last given that name, and this leaves the
scene as it is. Any other client is refused with status 401 and an ended exchange, and keeps its
headers but for the challenge. So every user whose name has no colon can log in, nobody can with a
password that was replaced, and nobody is taken for somebody else. -/
theorem admits_exactly_current_users (realm : String) (users : List User) (s : Scene σ) :
    (∀ principal t,
      (ofUsers realm users).toAuthenticator s = (.ok (.authenticated principal), t) ↔ t = s ∧
        ∃ u, IsCurrent users u ∧ Presents s.exchange u.name u.password ∧
          principal = some u.principal) ∧
    ((∀ u, IsCurrent users u → ¬ Presents s.exchange u.name u.password) →
      ∃ headers, (ofUsers realm users).toAuthenticator s = (.ok .refused,
          { s with exchange := { s.exchange with status := 401, ended := true, headers } }) ∧
        headers.erase .wwwAuthenticate = s.exchange.headers.erase .wwwAuthenticate ∧
        (∀ value, HeaderValue.parse? (demand realm) = some value →
          headers.getAll .wwwAuthenticate = [value]) ∧
        (HeaderValue.parse? (demand realm) = none → headers = s.exchange.headers)) ∧
    (∀ u, IsCurrent users u → ':' ∉ u.name.toList →
      ∃ value, HeaderValue.parse? (login u) = some value ∧
        (s.exchange.request.headers.get? .authorization = some value →
          (ofUsers realm users).toAuthenticator s =
            (.ok (.authenticated (some u.principal)), s))) ∧
    (∀ u password, IsCurrent users u → password ≠ u.password →
      Presents s.exchange u.name password →
        ((ofUsers realm users).toAuthenticator s).1 = .ok .refused) ∧
    ∀ user password principal t, Presents s.exchange user password →
      (ofUsers realm users).toAuthenticator s = (.ok (.authenticated principal), t) →
        principal.map Principal.name = some user := by
  refine ⟨fun _ _ ↦ toAuthenticator_eq_iff,
    fun h ↦ ⟨_, toAuthenticator_of_not_current h, erase_demandIn realm _, ?_, ?_⟩, ?_, ?_, ?_⟩
  · exact fun value hvalue ↦ getAll_demandIn hvalue _
  · intro hnone
    rw [demandIn, hnone]
  · intro u hu hname
    have hvisible : ∀ c ∈ (login u).toList, HeaderValue.IsVisible c :=
      fun _ hc ↦ isVisible_of_mem_login hc
    refine ⟨_, HeaderValue.parse?_of_visible hvisible, fun hx ↦ ?_⟩
    exact toAuthenticator_of_current hu ((carries_login hname).presents hvisible hx)
  · intro u password hu hne hpresents
    rw [toAuthenticator_of_not_current]
    intro v hv hother
    obtain ⟨hname, hpassword⟩ := hpresents.unique hother
    have hidentity : some v.identity = some u.identity := by
      rw [← hu.get? { realm }, hname, hv.get?]
    exact hne (hpassword.trans (congrArg Identity.password (Option.some.inj hidentity)))
  · intro user password principal t hpresents h
    obtain ⟨-, u, -, hother, hprincipal⟩ := toAuthenticator_eq_iff.1 h
    rw [hprincipal, (hpresents.unique hother).1]
    rfl

end BasicAuthenticator

end WebDispatch
