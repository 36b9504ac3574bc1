/-
Revoked tokens.

A logout and a refresh put the hash of a token on a list, with the time the token expires at, and a
request with a token is let in when the token is valid and its hash is not on the list.  Logouts and
refreshes first delete what has expired from the list.  The requests are handled side by side, and a
statement of one can fail or lose its answer.

A token is decoded with some leeway after its expiry, and the list forgets it at its expiry.  So what
the list guarantees ends a leeway earlier than the validity of the token.  Two refreshes with one
token can both be let in when both look at the list before either writes to it.

A hash is represented by what it was taken of, and the program and its database look at one clock.
What the crate for JSON web tokens does with a text is a parameter: the claims of a text with a valid
signature.

Main definitions:

* `Beampipe.TokenCodec`, `Beampipe.decodeAccessToken`, `Beampipe.decodeRefreshToken` — tokens;
* `Beampipe.authUser`, `Beampipe.refresh`, `Beampipe.logout` — the handlers;
* `Beampipe.TokenWorld` — the list of revoked tokens, the clock, and every revocation so far;
* `Beampipe.TokenWorld.Inv` — every revocation is on the list until it has expired;
* `Beampipe.sessionSystem` — handlers side by side, beside the clock.

Main results:

* `Beampipe.session_wp` — what a handler has seen and written when it lets a request in;
* `Beampipe.revoked_token_refused` — **a request is let in only when every revocation of its token,
  up to the moment it looked, has expired**, and it has revoked what it says.
-/

import Beampipe.Programs
import Beampipe.Text

set_option relaxedAutoImplicit false
set_option autoImplicit false

namespace Beampipe

open Programs

/-! ### Tokens -/

/-- `TokenType`. -/
inductive TokenType where
  | access
  | refresh
  deriving DecidableEq, Repr

/-- `Claims`; times are in seconds. -/
structure Claims where
  sub : String
  typ : TokenType
  jti : String
  exp : ℕ
  iat : ℕ
  deriving DecidableEq, Repr

/-- The largest time that `DateTime::from_timestamp` takes. -/
def maxTimestamp : ℕ := 8210266876799

/-- What `jsonwebtoken` makes of a text under the secret of the program: the claims of a text that is
signed with it, and the leeway of its validation.  The signed texts are those of `issue_token`, whose
expiry is a `DateTime`. -/
structure TokenCodec where
  verify : String → Option Claims
  leeway : ℕ
  exp_le : ∀ token claims, verify token = some claims → claims.exp ≤ maxTimestamp

/-- `ApiError`, as far as these handlers return it. -/
inductive SessionError where
  | unauthorized (message : String)
  | badRequest (message : String)
  | jwt
  | database
  deriving DecidableEq, Repr

/-- `TokenPair`. -/
structure TokenPair where
  accessToken : String
  refreshToken : String
  deriving DecidableEq, Repr

section Decode

variable (codec : TokenCodec) (now : ℕ)

/-- `decode_token`, at a time in seconds. -/
def decodeToken (token : String) : Except SessionError Claims :=
  match codec.verify token with
  | none => .error .jwt
  | some claims => if now ≤ claims.exp + codec.leeway then .ok claims else .error .jwt

/-- `decode_access_token` and `decode_refresh_token`. -/
def decodeTokenOf (typ : TokenType) (token : String) : Except SessionError Claims :=
  match decodeToken codec now token with
  | .error error => .error error
  | .ok claims => if claims.typ = typ then .ok claims else .error .jwt

/-- `decode_access_token`. -/
def decodeAccessToken (token : String) : Except SessionError Claims :=
  decodeTokenOf codec now .access token

/-- `decode_refresh_token`. -/
def decodeRefreshToken (token : String) : Except SessionError Claims :=
  decodeTokenOf codec now .refresh token

end Decode

/-- A token that is decoded is signed, of the type, and not expired for longer than the leeway. -/
theorem decodeTokenOf_ok {codec : TokenCodec} {now : ℕ} {typ : TokenType} {token : String}
    {claims : Claims} (h : decodeTokenOf codec now typ token = .ok claims) :
    codec.verify token = some claims ∧ claims.typ = typ ∧ now ≤ claims.exp + codec.leeway := by
  unfold decodeTokenOf decodeToken at h
  cases hverify : codec.verify token with
  | none => simp [hverify] at h
  | some decoded =>
      simp only [hverify] at h
      by_cases hexp : now ≤ decoded.exp + codec.leeway
      · simp only [hexp, if_true] at h
        split at h
        next htyp =>
          obtain rfl := Except.ok.inj h
          exact ⟨rfl, htyp, hexp⟩
        · cases h
      · simp [hexp] at h

/-- `strip_prefix("Bearer ")` and `trim`. -/
def bearerToken (authorization : String) : Option String :=
  if "Bearer ".toList.isPrefixOf authorization.toList then
    some (String.ofList (trimChars (authorization.toList.drop "Bearer ".length)))
  else none

/-- `DateTime::from_timestamp`, in microseconds. -/
def fromTimestamp (seconds : ℕ) : Option ℕ :=
  if seconds ≤ maxTimestamp then some (seconds * 1000000) else none

/-! ### The handlers -/

/-- A revocation that was written. -/
structure Revocation where
  token : String
  expiresAt : ℕ
  deriving DecidableEq, Repr

/-- The answer of `is_token_blacklisted`.  The handlers look at the first member only; the other ones
say when the answer was given, and what had been revoked by then. -/
structure BlacklistAnswer where
  blacklisted : Bool
  answeredAt : ℕ
  revoked : List Revocation
  deriving DecidableEq, Repr

/-- What a handler asks for. -/
inductive SessionRequest where
  | utcNow
  | cleanupExpiredBlacklistedTokens
  | isTokenBlacklisted (token : String)
  | blacklistToken (token : String) (expiresAt : ℕ)
  | getUserByUsername (username : String)
  | issueTokenPair (subject : String)
  deriving DecidableEq, Repr

/-- What a request is answered with. -/
abbrev SessionRequest.Answer : SessionRequest → Type
  | .utcNow => ℕ
  | .cleanupExpiredBlacklistedTokens => Unit
  | .isTokenBlacklisted _ => BlacklistAnswer
  | .blacklistToken _ _ => Unit
  | .getUserByUsername _ => Option String
  | .issueTokenPair _ => TokenPair

/-- The answer, or an error. -/
abbrev SessionRequest.Resp (r : SessionRequest) : Type := Except SessionError r.Answer

/-- A handler, or a part of it. -/
abbrev Session (α : Type) : Type := Prog SessionRequest SessionRequest.Resp SessionError α

/-- How a request ends that is not refused.  A token that let it in is named, and the tokens that it
has revoked are. -/
inductive SessionOutcome where
  | user (token username : String)
  | pair (token : String) (pair : TokenPair)
  | noContent (tokens : List String)
  deriving DecidableEq, Repr

namespace Session

/-- A request whose error ends the handler. -/
def ask (r : SessionRequest) : Session r.Answer := Prog.ask r

/-- A request whose error is a value. -/
def answer (r : SessionRequest) : Session r.Resp := Prog.call r

/-- The time in seconds. -/
def seconds : Session ℕ := do
  let now ← ask .utcNow
  pure (now / 1000000)

/-- `let _ = cleanup_expired_blacklisted_tokens(…)`. -/
def cleanup : Session Unit := do
  let _ ← answer .cleanupExpiredBlacklistedTokens
  pure ()

end Session

/-- The extractor `AuthUser`. -/
def authUser (codec : TokenCodec) (authorization : Option String) : Session SessionOutcome :=
  match authorization with
  | none => .throw (.unauthorized "missing Authorization header")
  | some authorization =>
      match bearerToken authorization with
      | none => .throw (.unauthorized "Authorization must be Bearer token")
      | some token => do
          let now ← Session.seconds
          let claims ← Prog.ofExcept (decodeAccessToken codec now token)
          let check ← Session.ask (.isTokenBlacklisted token)
          if check.blacklisted then .throw (.unauthorized "token revoked")
          else
            match ← Session.ask (.getUserByUsername claims.sub) with
            | none => .throw (.unauthorized "user not found")
            | some username => pure (.user token username)

/-- `refresh`. -/
def refresh (codec : TokenCodec) (refreshTokenExpireDays : ℕ) (refreshToken : Option String) :
    Session SessionOutcome := do
  Session.cleanup
  match refreshToken with
  | none => .throw (.badRequest "refresh_token required")
  | some token =>
      let check ← Session.ask (.isTokenBlacklisted token)
      if check.blacklisted then .throw (.badRequest "token revoked")
      else
        let now ← Session.seconds
        let claims ← Prog.ofExcept (decodeRefreshToken codec now token)
        let expiresAt ←
          match fromTimestamp claims.exp with
          | some expiresAt => pure expiresAt
          | none => do
              let now ← Session.ask .utcNow
              pure (now + refreshTokenExpireDays * 86400000000)
        Session.ask (.blacklistToken token expiresAt)
        let pair ← Session.ask (.issueTokenPair claims.sub)
        pure (.pair token pair)

/-- The token of a logout, when there is one. -/
def validateLogoutToken (codec : TokenCodec) (typ : TokenType) (token : Option String) :
    Session (List (String × Claims)) :=
  match token with
  | none => pure []
  | some token => do
      let now ← Session.seconds
      let claims ← Prog.ofExcept (decodeTokenOf codec now typ token)
      pure [(token, claims)]

/-- `validate_logout_tokens`. -/
def validateLogoutTokens (codec : TokenCodec) (accessToken refreshToken : Option String) :
    Session (List (String × Claims)) :=
  if accessToken.isNone && refreshToken.isNone then
    .throw (.badRequest "access_token or refresh_token required")
  else do
    let access ← validateLogoutToken codec .access accessToken
    let refresh ← validateLogoutToken codec .refresh refreshToken
    let validated := access ++ refresh
    if (validated.zip validated.tail).any fun pair => pair.1.2.sub != pair.2.2.sub then
      .throw (.unauthorized "logout tokens belong to different users")
    else pure validated

/-- The tokens of a logout go on the list one after the other. -/
def blacklistTokens : List (String × Claims) → Session Unit
  | [] => pure ()
  | (token, claims) :: rest =>
      match fromTimestamp claims.exp with
      | none => .throw (.badRequest "token expiration is invalid")
      | some expiresAt => do
          Session.ask (.blacklistToken token expiresAt)
          blacklistTokens rest

/-- `logout`. -/
def logout (codec : TokenCodec) (accessToken refreshToken : Option String) :
    Session SessionOutcome := do
  Session.cleanup
  let validated ← validateLogoutTokens codec accessToken refreshToken
  blacklistTokens validated
  pure (.noContent (validated.map Prod.fst))

/-- A request to the program. -/
inductive SessionCall where
  | authenticated (authorization : Option String)
  | refresh (refreshToken : Option String)
  | logout (accessToken refreshToken : Option String)
  deriving DecidableEq, Repr

/-- The handler of a request. -/
def SessionCall.handler (codec : TokenCodec) (refreshTokenExpireDays : ℕ) :
    SessionCall → Session SessionOutcome
  | .authenticated authorization => authUser codec authorization
  | .refresh refreshToken => Beampipe.refresh codec refreshTokenExpireDays refreshToken
  | .logout accessToken refreshToken => Beampipe.logout codec accessToken refreshToken

/-! ### What a handler knows -/

/-- What a handler has been told: the time, the list it looked at, and what it has written there. -/
structure SessionBooks where
  clock : Option ℕ := none
  check : Option (String × BlacklistAnswer) := none
  revoked : List String := []
  deriving DecidableEq, Repr

/-- What an answer adds. -/
def SessionBooks.learn (books : SessionBooks) : (r : SessionRequest) → r.Resp → SessionBooks
  | .utcNow, .ok now => { books with clock := some now }
  | .isTokenBlacklisted token, .ok answer => { books with check := some (token, answer) }
  | .blacklistToken token _, .ok _ => { books with revoked := token :: books.revoked }
  | _, _ => books

/-- The token is signed, and expires at this time in microseconds. -/
def TokenCodec.ExpiresAt (codec : TokenCodec) (token : String) (expiresAt : ℕ) : Prop :=
  ∃ claims, codec.verify token = some claims ∧ expiresAt = claims.exp * 1000000

/-- A request fits: what goes on the list does so with the expiry of the token. -/
def SessionRequest.Fits (codec : TokenCodec) : SessionRequest → Prop
  | .blacklistToken token expiresAt => codec.ExpiresAt token expiresAt
  | _ => True

/-- The token is signed and of the type, the clock was within its leeway, and the list did not name it
when the handler looked. -/
def SessionBooks.LetsIn (books : SessionBooks) (codec : TokenCodec) (typ : TokenType)
    (token : String) : Prop :=
  ∃ claims now check, codec.verify token = some claims ∧ claims.typ = typ ∧
    books.clock = some now ∧ now / 1000000 ≤ claims.exp + codec.leeway ∧
    books.check = some (token, check) ∧ check.blacklisted = false

/-- What a handler has seen and written when it ends. -/
def SessionBooks.Settled (codec : TokenCodec) : SessionOutcome → SessionBooks → Prop
  | .user token _, books => books.LetsIn codec .access token
  | .pair token _, books => books.LetsIn codec .refresh token ∧ token ∈ books.revoked
  | .noContent tokens, books => ∀ token ∈ tokens, token ∈ books.revoked

section Wp

variable {codec : TokenCodec}

/-- The requests of a handler fit, and it ends in `Q`. -/
abbrev Session.Wp (codec : TokenCodec) {α : Type} (Q : α → SessionBooks → Prop) (p : Session α)
    (books : SessionBooks) : Prop :=
  p.wp SessionBooks.learn (fun _ r => r.Fits codec) Q (fun _ _ => True) books

theorem Session.wp_ask {r : SessionRequest} {Q : r.Answer → SessionBooks → Prop}
    {books : SessionBooks} (hfits : r.Fits codec)
    (hQ : ∀ answer, Q answer (books.learn r (.ok answer))) :
    Session.Wp codec Q (Session.ask r) books :=
  Prog.wp_ask hfits hQ fun _ => trivial

/-- The time is noted. -/
theorem Session.wp_seconds {Q : ℕ → SessionBooks → Prop} {books : SessionBooks}
    (h : ∀ now, Q (now / 1000000) { books with clock := some now }) :
    Session.Wp codec Q Session.seconds books :=
  Prog.wp_bind (R := fun now books' => books' = { books with clock := some now })
    (Session.wp_ask trivial fun _ => rfl) fun now _ heq => by
      subst heq
      exact h now

theorem Session.wp_cleanup {Q : Unit → SessionBooks → Prop} {books : SessionBooks}
    (h : Q () books) : Session.Wp codec Q Session.cleanup books := by
  have hlearn : ∀ v, books.learn .cleanupExpiredBlacklistedTokens v = books := fun v => by
    cases v <;> rfl
  exact ⟨trivial, fun v => (hlearn v).symm ▸ h⟩

/-- The token of a logout is signed. -/
theorem validateLogoutToken_wp {typ : TokenType} {token : Option String} {books : SessionBooks} :
    Session.Wp codec
      (fun validated _ => ∀ entry ∈ validated, codec.verify entry.1 = some entry.2)
      (validateLogoutToken codec typ token) books := by
  cases token with
  | none => exact fun _ hmem => by cases hmem
  | some token =>
      refine Prog.wp_bind (R := fun _ _ => True) (Session.wp_seconds fun _ => trivial)
        fun now _ _ => ?_
      refine Prog.wp_bind (R := fun claims _ => codec.verify token = some claims)
        (Prog.wp_ofExcept (fun claims hok => (decodeTokenOf_ok hok).1) fun _ _ => trivial)
        fun claims _ hverify entry hmem => ?_
      obtain rfl := List.mem_singleton.mp hmem
      exact hverify

theorem validateLogoutTokens_wp {accessToken refreshToken : Option String}
    {books : SessionBooks} :
    Session.Wp codec
      (fun validated _ => ∀ entry ∈ validated, codec.verify entry.1 = some entry.2)
      (validateLogoutTokens codec accessToken refreshToken) books := by
  unfold validateLogoutTokens
  by_cases hnone : (accessToken.isNone && refreshToken.isNone) = true
  · rw [if_pos hnone]
    trivial
  · rw [if_neg hnone]
    refine Prog.wp_bind validateLogoutToken_wp fun access _ haccess => ?_
    refine Prog.wp_bind validateLogoutToken_wp fun refresh _ hrefresh => ?_
    by_cases hsub : (((access ++ refresh).zip (access ++ refresh).tail).any
        fun pair => pair.1.2.sub != pair.2.2.sub) = true
    · simp only [hsub, if_true]
      trivial
    · simp only [hsub]
      intro entry hmem
      rcases List.mem_append.mp hmem with hmem | hmem
      · exact haccess entry hmem
      · exact hrefresh entry hmem

/-- The tokens of a logout go on the list with their own expiry. -/
theorem blacklistTokens_wp {validated : List (String × Claims)} {books : SessionBooks}
    (h : ∀ entry ∈ validated, codec.verify entry.1 = some entry.2) :
    Session.Wp codec
      (fun _ books' => (∀ token ∈ validated.map Prod.fst, token ∈ books'.revoked) ∧
        ∀ token ∈ books.revoked, token ∈ books'.revoked)
      (blacklistTokens validated) books := by
  induction validated generalizing books with
  | nil => exact ⟨fun _ hmem => (by cases hmem), fun _ hmem => hmem⟩
  | cons entry rest ih =>
      obtain ⟨token, claims⟩ := entry
      have hverify : codec.verify token = some claims := h _ List.mem_cons_self
      have hexp : claims.exp ≤ maxTimestamp := codec.exp_le token claims hverify
      have hcode : blacklistTokens ((token, claims) :: rest) = (do
          Session.ask (.blacklistToken token (claims.exp * 1000000))
          blacklistTokens rest) := by
        simp only [blacklistTokens, fromTimestamp, hexp, if_true]
      rw [hcode]
      refine Prog.wp_bind
        (R := fun _ books' => books' = { books with revoked := token :: books.revoked })
        (Session.wp_ask ⟨claims, hverify, rfl⟩ fun _ => rfl) fun _ books' heq => ?_
      subst heq
      refine Prog.wp_mono (ih fun entry hmem => h entry (List.mem_cons_of_mem _ hmem))
        (fun _ books'' hrest => ⟨fun token' hmem => ?_, fun token' hmem => ?_⟩) fun _ _ _ => trivial
      · rcases List.mem_cons.mp hmem with rfl | hmem
        · exact hrest.2 _ List.mem_cons_self
        · exact hrest.1 token' hmem
      · exact hrest.2 token' (List.mem_cons_of_mem _ hmem)

theorem authUser_wp {authorization : Option String} {books : SessionBooks} :
    Session.Wp codec (SessionBooks.Settled codec) (authUser codec authorization) books := by
  cases authorization with
  | none => trivial
  | some authorization =>
      unfold authUser
      dsimp only
      cases bearerToken authorization with
      | none => trivial
      | some token =>
          refine Prog.wp_bind
            (R := fun seconds books' => ∃ now, books'.clock = some now ∧ seconds = now / 1000000)
            (Session.wp_seconds fun now => ⟨now, rfl, rfl⟩) fun _ books' hclock => ?_
          obtain ⟨now, hclock, rfl⟩ := hclock
          refine Prog.wp_bind
            (R := fun claims books' => books'.clock = some now ∧
              codec.verify token = some claims ∧ claims.typ = .access ∧
              now / 1000000 ≤ claims.exp + codec.leeway)
            (Prog.wp_ofExcept (fun claims hok => ⟨hclock, decodeTokenOf_ok hok⟩) fun _ _ => trivial)
            fun claims books'' hclaims => ?_
          obtain ⟨hclock', hverify, htyp, hexp⟩ := hclaims
          refine Prog.wp_bind
            (R := fun check books' => books'.clock = some now ∧
              books'.check = some (token, check))
            (Session.wp_ask trivial fun check => ⟨hclock', rfl⟩) fun check books3 hcheck => ?_
          by_cases hblacklisted : check.blacklisted = true
          · rw [if_pos hblacklisted]
            trivial
          · rw [if_neg hblacklisted]
            refine Prog.wp_bind
              (R := fun _ books' => books'.clock = some now ∧ books'.check = some (token, check))
              (Session.wp_ask trivial fun _ => hcheck) fun user books4 hbooks => ?_
            cases user with
            | none => trivial
            | some username =>
                exact ⟨claims, now, check, hverify, htyp, hbooks.1, hexp, hbooks.2,
                  Bool.eq_false_iff.mpr hblacklisted⟩

theorem refresh_wp {refreshTokenExpireDays : ℕ} {refreshToken : Option String}
    {books : SessionBooks} :
    Session.Wp codec (SessionBooks.Settled codec)
      (refresh codec refreshTokenExpireDays refreshToken) books := by
  refine Prog.wp_bind (R := fun _ _ => True) (Session.wp_cleanup trivial) fun _ books' _ => ?_
  cases refreshToken with
  | none => trivial
  | some token =>
      refine Prog.wp_bind (R := fun check books' => books'.check = some (token, check))
        (Session.wp_ask trivial fun check => rfl) fun check books'' hcheck => ?_
      by_cases hblacklisted : check.blacklisted = true
      · rw [if_pos hblacklisted]
        trivial
      · rw [if_neg hblacklisted]
        refine Prog.wp_bind
          (R := fun seconds books' => books'.check = some (token, check) ∧
            ∃ now, books'.clock = some now ∧ seconds = now / 1000000)
          (Session.wp_seconds fun now => ⟨hcheck, now, rfl, rfl⟩) fun _ books3 hclock => ?_
        obtain ⟨hcheck3, now, hclock, rfl⟩ := hclock
        refine Prog.wp_bind
          (R := fun claims books' => books' = books3 ∧
            codec.verify token = some claims ∧ claims.typ = .refresh ∧
            now / 1000000 ≤ claims.exp + codec.leeway)
          (Prog.wp_ofExcept (fun claims hok => ⟨rfl, decodeTokenOf_ok hok⟩) fun _ _ => trivial)
          fun claims books4 hclaims => ?_
        obtain ⟨rfl, hverify, htyp, hexp⟩ := hclaims
        -- the expiry of a signed token is a time, so the other branch is not taken
        have htimestamp : fromTimestamp claims.exp = some (claims.exp * 1000000) :=
          if_pos (codec.exp_le token claims hverify)
        rw [htimestamp]
        refine Prog.wp_bind (p := Session.ask (.blacklistToken token (claims.exp * 1000000)))
          (R := fun _ books' => books' = { books4 with revoked := token :: books4.revoked })
          (Session.wp_ask ⟨claims, hverify, rfl⟩ fun _ => rfl) fun _ books5 heq => ?_
        subst heq
        refine Prog.wp_bind
          (R := fun _ books' => books' = { books4 with revoked := token :: books4.revoked })
          (Session.wp_ask trivial fun _ => rfl) fun pair books6 heq => ?_
        subst heq
        exact ⟨⟨claims, now, check, hverify, htyp, hclock, hexp, hcheck3,
          Bool.eq_false_iff.mpr hblacklisted⟩, List.mem_cons_self⟩

theorem logout_wp {accessToken refreshToken : Option String} {books : SessionBooks} :
    Session.Wp codec (SessionBooks.Settled codec) (logout codec accessToken refreshToken)
      books := by
  refine Prog.wp_bind (R := fun _ _ => True) (Session.wp_cleanup trivial) fun _ _ _ => ?_
  refine Prog.wp_bind validateLogoutTokens_wp fun validated _ hvalidated => ?_
  exact Prog.wp_bind (blacklistTokens_wp hvalidated) fun _ _ hrevoked => hrevoked.1

/-- What a handler has seen and written when it does not refuse, whatever its answers are. -/
theorem session_wp {refreshTokenExpireDays : ℕ} {call : SessionCall} {books : SessionBooks} :
    Session.Wp codec (SessionBooks.Settled codec)
      (call.handler codec refreshTokenExpireDays) books := by
  cases call with
  | authenticated authorization => exact authUser_wp
  | refresh refreshToken => exact refresh_wp
  | logout accessToken refreshToken => exact logout_wp

end Wp

/-! ### Handlers over the list -/

/-- The clock in microseconds, the rows of `token_blacklist`, and every revocation so far, the last one
first. -/
structure TokenWorld where
  now : ℕ
  blacklist : List Revocation := []
  revoked : List Revocation := []
  deriving DecidableEq, Repr

/-- What neither the list nor a request determines: whether a statement fails, and whether it was
carried out before its answer was lost; the user; and the tokens of a new pair. -/
structure SessionChoice where
  failure : Option (SessionError × Bool) := none
  username : Option String := none
  pair : TokenPair := ⟨"", ""⟩
  deriving DecidableEq, Repr

/-- One statement on the list. -/
def SessionRequest.transaction (i : SessionChoice) (w : TokenWorld) :
    (r : SessionRequest) → r.Resp × TokenWorld
  | .utcNow => (.ok w.now, w)
  | .cleanupExpiredBlacklistedTokens =>
      (.ok (), { w with blacklist := w.blacklist.filter fun row => decide (w.now < row.expiresAt) })
  | .isTokenBlacklisted token =>
      (.ok { blacklisted := w.blacklist.any fun row =>
               row.token == token && decide (w.now < row.expiresAt)
             answeredAt := w.now
             revoked := w.revoked }, w)
  | .blacklistToken token expiresAt =>
      (.ok (), { w with
        blacklist := if w.blacklist.any (fun row => row.token == token) then w.blacklist
          else w.blacklist ++ [⟨token, expiresAt⟩]
        revoked := ⟨token, expiresAt⟩ :: w.revoked })
  | .getUserByUsername _ => (.ok i.username, w)
  | .issueTokenPair _ => (.ok i.pair, w)

/-- A request as it happens: all but a look at the clock may fail. -/
def SessionRequest.perform (r : SessionRequest) (i : SessionChoice) (w : TokenWorld) :
    r.Resp × TokenWorld :=
  Prog.fallible (i.failure.filter fun _ => r != .utcNow) w (r.transaction i w)

/-- Any number of handlers, each with its request, over the list; the clock goes on. -/
def sessionSystem (codec : TokenCodec) (refreshTokenExpireDays : ℕ) :
    System SessionRequest SessionRequest.Resp SessionError SessionOutcome TokenWorld
      SessionBooks SessionChoice SessionCall ℕ where
  perform := fun _ r i books w =>
    let outcome := r.perform i w
    (outcome.1, books.learn r outcome.1, outcome.2)
  code := SessionCall.handler codec refreshTokenExpireDays
  loc := {}
  environment := fun elapsed w => { w with now := w.now + elapsed }

/-- Every row and every revocation has the expiry of its token, and a revocation is on the list until
it has expired. -/
structure TokenWorld.Inv (codec : TokenCodec) (w : TokenWorld) : Prop where
  row : ∀ row ∈ w.blacklist, codec.ExpiresAt row.token row.expiresAt
  revocation : ∀ revocation ∈ w.revoked, codec.ExpiresAt revocation.token revocation.expiresAt
  kept : ∀ revocation ∈ w.revoked, revocation.expiresAt ≤ w.now ∨ revocation ∈ w.blacklist

/-- A token has one expiry. -/
theorem TokenCodec.ExpiresAt.eq {codec : TokenCodec} {token : String} {m n : ℕ}
    (hm : codec.ExpiresAt token m) (hn : codec.ExpiresAt token n) : m = n := by
  obtain ⟨claims, hclaims, rfl⟩ := hm
  obtain ⟨claims', hclaims', rfl⟩ := hn
  obtain rfl := Option.some.inj (hclaims.symm.trans hclaims')
  rfl

/-- A statement that fits keeps the invariant. -/
theorem TokenWorld.Inv.transaction {codec : TokenCodec} {w : TokenWorld} (h : w.Inv codec)
    {r : SessionRequest} (hfits : r.Fits codec) (i : SessionChoice) :
    (r.transaction i w).2.Inv codec := by
  cases r with
  | cleanupExpiredBlacklistedTokens =>
      refine ⟨fun row hrow => h.row row (List.mem_of_mem_filter hrow), h.revocation,
        fun revocation hmem => ?_⟩
      rcases h.kept revocation hmem with hexpired | hrow
      · exact .inl hexpired
      · by_cases hexpired : revocation.expiresAt ≤ w.now
        · exact .inl hexpired
        · exact .inr (List.mem_filter.mpr ⟨hrow, decide_eq_true (by omega)⟩)
  | blacklistToken token expiresAt =>
      have hfits : codec.ExpiresAt token expiresAt := hfits
      refine ⟨fun row hrow => ?_, fun revocation hmem => ?_, fun revocation hmem => ?_⟩
      · simp only [SessionRequest.transaction] at hrow
        split at hrow
        · exact h.row row hrow
        · rcases List.mem_append.mp hrow with hrow | hrow
          · exact h.row row hrow
          · obtain rfl := List.mem_singleton.mp hrow
            exact hfits
      · rcases List.mem_cons.mp hmem with rfl | hmem
        · exact hfits
        · exact h.revocation revocation hmem
      · simp only [SessionRequest.transaction]
        rcases List.mem_cons.mp hmem with rfl | hmem
        · -- a row that is there already has the same expiry
          refine .inr ?_
          split
          next hrow =>
            obtain ⟨row, hrow, htoken⟩ := List.any_eq_true.mp hrow
            have htoken : row.token = token := eq_of_beq htoken
            have hexpires : row.expiresAt = expiresAt :=
              (h.row row hrow).eq (htoken.symm ▸ hfits)
            obtain ⟨rowToken, rowExpiresAt⟩ := row
            dsimp only at htoken hexpires
            rw [← htoken, ← hexpires]
            exact hrow
          next => exact List.mem_append_right _ List.mem_cons_self
        · rcases h.kept revocation hmem with hexpired | hrow
          · exact .inl hexpired
          · refine .inr ?_
            split
            · exact hrow
            · exact List.mem_append_left _ hrow
  | utcNow => exact h
  | isTokenBlacklisted token => exact h
  | getUserByUsername subject => exact h
  | issueTokenPair subject => exact h

theorem TokenWorld.Inv.perform {codec : TokenCodec} {w : TokenWorld} (h : w.Inv codec)
    {r : SessionRequest} (hfits : r.Fits codec) (i : SessionChoice) :
    (r.perform i w).2.Inv codec :=
  Prog.fallible_state h (h.transaction hfits i)

theorem TokenWorld.Inv.elapse {codec : TokenCodec} {w : TokenWorld} (h : w.Inv codec)
    (elapsed : ℕ) : TokenWorld.Inv codec { w with now := w.now + elapsed } := by
  refine ⟨h.row, h.revocation, fun revocation hmem => ?_⟩
  rcases h.kept revocation hmem with hexpired | hrow
  · exact .inl (Nat.le_trans hexpired (Nat.le_add_right _ _))
  · exact .inr hrow

/-- The revocations so far are never taken back. -/
theorem SessionRequest.revoked_perform (r : SessionRequest) (i : SessionChoice) (w : TokenWorld) :
    w.revoked <:+ (r.perform i w).2.revoked := by
  have htransaction : w.revoked <:+ (r.transaction i w).2.revoked := by
    cases r with
    | blacklistToken token expiresAt => exact List.suffix_cons _ _
    | _ => exact List.suffix_rfl
  exact Prog.fallible_state (P := fun w' : TokenWorld => w.revoked <:+ w'.revoked)
    List.suffix_rfl htransaction

/-- What a handler knows of the revocations: the answer about a token was given on the first ones of
them, and a token that it did not name had no revocation then that was not expired; and what the
handler has revoked is among them. -/
structure TokenWorld.Known (w : TokenWorld) (books : SessionBooks) : Prop where
  check : ∀ token check, books.check = some (token, check) → check.revoked <:+ w.revoked ∧
    (check.blacklisted = false →
      ∀ revocation ∈ check.revoked, revocation.token = token →
        revocation.expiresAt ≤ check.answeredAt)
  revoked : ∀ token ∈ books.revoked, ∃ revocation ∈ w.revoked, revocation.token = token

theorem TokenWorld.Known.mono {w w' : TokenWorld} {books : SessionBooks} (h : w.Known books)
    (hrevoked : w.revoked <:+ w'.revoked) : w'.Known books where
  check := fun token check hcheck =>
    ⟨(h.check token check hcheck).1.trans hrevoked, (h.check token check hcheck).2⟩
  revoked := fun token hmem =>
    let ⟨revocation, hrevocation, htoken⟩ := h.revoked token hmem
    ⟨revocation, hrevoked.mem hrevocation, htoken⟩

/-- A token that the list does not name has no revocation that is not expired. -/
theorem TokenWorld.Inv.isTokenBlacklisted {codec : TokenCodec} {w : TokenWorld} (h : w.Inv codec)
    {token : String}
    (hlist : (w.blacklist.any fun row => row.token == token && decide (w.now < row.expiresAt)) =
      false) {revocation : Revocation} (hmem : revocation ∈ w.revoked)
    (htoken : revocation.token = token) : revocation.expiresAt ≤ w.now := by
  rcases h.kept revocation hmem with hexpired | hrow
  · exact hexpired
  · have hnone := List.any_eq_false.mp hlist revocation hrow
    rw [htoken] at hnone
    simpa using hnone

/-- The books stay true with an answer. -/
theorem TokenWorld.Known.learn {codec : TokenCodec} {w : TokenWorld} {books : SessionBooks}
    (hinv : w.Inv codec) (h : w.Known books) (r : SessionRequest) (i : SessionChoice) :
    (r.perform i w).2.Known (books.learn r (r.perform i w).1) := by
  have hkept : (r.perform i w).2.Known books := h.mono (r.revoked_perform i w)
  cases hanswer : (r.perform i w).1 with
  | error error => cases r <;> exact hkept
  | ok answer =>
      have hperform : r.perform i w = r.transaction i w := Prog.fallible_ok hanswer
      cases r with
      | isTokenBlacklisted token =>
          rw [hperform] at hanswer ⊢
          obtain rfl := Except.ok.inj hanswer
          refine ⟨fun token' check hcheck => ?_, h.revoked⟩
          obtain ⟨rfl, rfl⟩ := Prod.mk.inj (Option.some.inj hcheck)
          exact ⟨List.suffix_rfl, fun hlist revocation hmem htoken =>
            hinv.isTokenBlacklisted hlist hmem htoken⟩
      | blacklistToken token expiresAt =>
          refine ⟨hkept.check, fun token' hmem => ?_⟩
          rcases List.mem_cons.mp hmem with rfl | hmem
          · rw [hperform]
            exact ⟨⟨_, expiresAt⟩, List.mem_cons_self, rfl⟩
          · exact hkept.revoked token' hmem
      | utcNow => exact ⟨hkept.check, hkept.revoked⟩
      | cleanupExpiredBlacklistedTokens => exact hkept
      | getUserByUsername subject => exact hkept
      | issueTokenPair subject => exact hkept

/-- The token that let the request in. -/
def SessionOutcome.admits : SessionOutcome → Option String
  | .user token _ | .pair token _ => some token
  | .noContent _ => none

/-- The tokens that the request has revoked. -/
def SessionOutcome.revokes : SessionOutcome → List String
  | .user _ _ => []
  | .pair token _ => [token]
  | .noContent tokens => tokens

/-- **A revoked token is refused.**  In every run of any number of handlers side by side, whatever
fails in it: a request that ended well, with a token that let it in, has looked at the list at some
moment, and every revocation of the token up to then had expired at that moment, while the token was
within its leeway; and every token that the request says to have revoked is revoked. -/
theorem revoked_token_refused (codec : TokenCodec) (refreshTokenExpireDays : ℕ) (w : TokenWorld)
    (hw : w.Inv codec) (labels : List (Label SessionChoice SessionCall ℕ)) (pid : ℕ)
    (books : SessionBooks) (outcome : SessionOutcome)
    (hended : (Runs.exec (sessionSystem codec refreshTokenExpireDays).step (System.init w)
      labels).threads pid = some ⟨books, .ret outcome⟩) :
    let revoked := (Runs.exec (sessionSystem codec refreshTokenExpireDays).step (System.init w)
      labels).shared.revoked
    (∀ token, outcome.admits = some token → ∃ claims now check,
      codec.verify token = some claims ∧ now / 1000000 ≤ claims.exp + codec.leeway ∧
      books.clock = some now ∧ books.check = some (token, check) ∧ check.revoked <:+ revoked ∧
      ∀ revocation ∈ check.revoked, revocation.token = token →
        claims.exp * 1000000 ≤ check.answeredAt) ∧
    ∀ token ∈ outcome.revokes, ∃ revocation ∈ revoked, revocation.token = token ∧
      codec.ExpiresAt token revocation.expiresAt := by
  obtain ⟨hinv, hthreads⟩ := System.exec_known (m := sessionSystem codec refreshTokenExpireDays)
    (I := fun w => w.Inv codec) (K := fun books w => w.Known books) id
    (fun _ _ _ _ _ => rfl) (fun _ => session_wp)
    (fun _ _ i _ _ hinv _ hfits => hinv.perform hfits i) (fun e _ hinv => hinv.elapse e)
    (fun _ _ => ⟨fun _ _ hcheck => (by cases hcheck), fun _ hmem => (by cases hmem)⟩)
    (fun _ r i _ _ hinv hknown _ => hknown.learn hinv r i)
    (fun _ r i _ w _ _ _ hknown => hknown.mono (r.revoked_perform i w))
    (fun _ _ _ _ hknown => ⟨hknown.check, hknown.revoked⟩) hw labels
  obtain ⟨hsettled, hknown⟩ := hthreads pid _ hended
  have hsettled : SessionBooks.Settled codec outcome books := hsettled
  generalize (Runs.exec (sessionSystem codec refreshTokenExpireDays).step (System.init w)
    labels).shared = world at hinv hknown
  have hletsIn : ∀ typ token, books.LetsIn codec typ token → ∃ claims now check,
      codec.verify token = some claims ∧ now / 1000000 ≤ claims.exp + codec.leeway ∧
      books.clock = some now ∧ books.check = some (token, check) ∧
      check.revoked <:+ world.revoked ∧
      ∀ revocation ∈ check.revoked, revocation.token = token →
        claims.exp * 1000000 ≤ check.answeredAt := by
    rintro typ token ⟨claims, now, check, hverify, -, hclock, hexp, hcheck, hlist⟩
    obtain ⟨hsuffix, hexpired⟩ := hknown.check token check hcheck
    refine ⟨claims, now, check, hverify, hexp, hclock, hcheck, hsuffix,
      fun revocation hmem htoken => ?_⟩
    have htokenExpires : codec.ExpiresAt revocation.token (claims.exp * 1000000) := by
      rw [htoken]
      exact ⟨claims, hverify, rfl⟩
    rw [htokenExpires.eq (hinv.revocation revocation (hsuffix.mem hmem))]
    exact hexpired hlist revocation hmem htoken
  have hrevokes : ∀ token ∈ books.revoked, ∃ revocation ∈ world.revoked,
      revocation.token = token ∧ codec.ExpiresAt token revocation.expiresAt := by
    intro token hmem
    obtain ⟨revocation, hrevocation, rfl⟩ := hknown.revoked token hmem
    exact ⟨revocation, hrevocation, rfl, hinv.revocation revocation hrevocation⟩
  cases outcome with
  | user token username =>
      refine ⟨fun token' htoken => ?_, fun _ hmem => by cases hmem⟩
      obtain rfl := Option.some.inj htoken
      exact hletsIn _ _ hsettled
  | pair token pair =>
      refine ⟨fun token' htoken => ?_, fun token' hmem => ?_⟩
      · obtain rfl := Option.some.inj htoken
        exact hletsIn _ _ hsettled.1
      · obtain rfl := List.mem_singleton.mp hmem
        exact hrevokes _ hsettled.2
  | noContent tokens =>
      exact ⟨fun _ htoken => (by cases htoken), fun token hmem => hrevokes token (hsettled token hmem)⟩

/-! ### A refresh within the leeway -/

/-- One signed text, which expires after ten seconds. -/
def singleToken : TokenCodec where
  verify := fun token => if token = "r" then some ⟨"s", .refresh, "j", 10, 0⟩ else none
  leeway := 60
  exp_le := fun token claims h => by
    split at h
    · cases h
      decide
    · cases h

/-- A logout of the token, and after its expiry a refresh with it. -/
def refreshAfterLogout : List (Label SessionChoice SessionCall ℕ) :=
  [.start 0 (.logout none (some "r")), .run 0 {}, .run 0 {}, .run 0 {}, .environment 20000000,
    .start 1 (.refresh (some "r")), .run 1 {}, .run 1 {}, .run 1 {}, .run 1 {}, .run 1 {}]

/-- The refresh is let in: the token has expired when it looks, and is within the leeway. -/
theorem revoked_token_refused_leeway :
    let revoked := (Runs.exec (sessionSystem singleToken 7).step (System.init ⟨0, [], []⟩)
      refreshAfterLogout).shared.revoked
    ∃ (claims : Claims) (check : BlacklistAnswer), singleToken.verify "r" = some claims ∧
      check.revoked <:+ revoked ∧
      ∀ revocation ∈ check.revoked, revocation.token = "r" →
        claims.exp * 1000000 ≤ check.answeredAt := by
  have hinv : TokenWorld.Inv singleToken ⟨0, [], []⟩ :=
    ⟨fun _ hmem => (by cases hmem), fun _ hmem => (by cases hmem), fun _ hmem => (by cases hmem)⟩
  obtain ⟨hadmits, -⟩ := revoked_token_refused singleToken 7 ⟨0, [], []⟩ hinv refreshAfterLogout 1 _
    (.pair "r" ⟨"", ""⟩) rfl
  obtain ⟨claims, -, check, hverify, -, -, -, hsuffix, hexpired⟩ := hadmits "r" rfl
  exact ⟨claims, check, hverify, hsuffix, hexpired⟩

end Beampipe
