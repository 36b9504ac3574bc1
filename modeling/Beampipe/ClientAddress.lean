/-
**The address a request is rate limited by.**

A proxy adds the address of its own peer to the right end of the forwarding chain, so the chain is
to be read from the right: the first hop that is not itself a trusted proxy is the client.
`client_ip` reads the chain so, but of all the `X-Forwarded-For` lines of a request it takes the
first only, and it gives the chain up, for the address of its peer, for a malformed hop anywhere
in that line.  What stands to the left of the client's own hop, which the client chooses, then
decides the address.

Main definitions:

* `Beampipe.Api.clientIp` — the resolution as the code has it;
* `Beampipe.Api.Settles` — a chain settles on an address when it is read from the right;
* `Beampipe.Api.FollowsChain` — the address of a request is what its chain settles on;
* `Beampipe.Api.FirstLineDecides` — the requests whose first line says the same as the chain.

Main results:

* `Beampipe.Api.settles_append` — a chain is read on its right part first;
* `Beampipe.Api.settles_walk` — the loop ends with what a well-formed chain settles on;
* `Beampipe.Api.followsChain_clientIp_iff` — the address of a request is what its chain settles on
  exactly when the first line decides.
-/

import Beampipe.Json
import Beampipe.Text
import Mathlib.Data.List.Induction

set_option relaxedAutoImplicit false
set_option autoImplicit false

namespace Beampipe.Api

/-! ### The resolution -/

/-- `HeaderMap`: the lines of the headers in their order, under names in lower case. -/
abbrev HeaderMap : Type := List (String × List UInt8)

/-- The values of all the lines of a name. -/
def HeaderMap.getAll (headers : HeaderMap) (name : String) : List (List UInt8) :=
  headers.filterMap fun line => if line.1 = name then some line.2 else none

/-- `HeaderMap::get`: the value of the first line of the name. -/
def HeaderMap.get (headers : HeaderMap) (name : String) : Option (List UInt8) :=
  (headers.getAll name).head?

/-- A byte that `HeaderValue::to_str` reads. -/
def isVisible (b : UInt8) : Bool := (32 ≤ b && b < 127) || b == 9

/-- `HeaderValue::to_str`. -/
def toStr (value : List UInt8) : Option (List Char) :=
  if value.all isVisible then some (value.map fun b => Char.ofNat b.toNat) else none

section Resolution

variable {Addr IpNet : Type} (parse : List Char → Option Addr) (contains : IpNet → Addr → Bool)

/-- Some trusted network contains the address. -/
def isTrusted (trustedProxyCidrs : List IpNet) (addr : Addr) : Bool :=
  trustedProxyCidrs.any fun network => contains network addr

/-- The loop of `client_ip` over the hops from the right. -/
def walk (trusted : Addr → Bool) (current : Addr) : List Addr → Addr
  | [] => current
  | hop :: rest => if trusted current then walk trusted hop rest else current

/-- `client_ip`. -/
def clientIp (headers : HeaderMap) (peer : Addr) (trustedProxyCidrs : List IpNet) : Addr :=
  if isTrusted contains trustedProxyCidrs peer then
    match (headers.get "x-forwarded-for").bind toStr with
    | none => peer
    | some forwarded =>
        match ((forwarded.splitOn ',').map trimChars).mapM parse with
        | none => peer
        | some hops =>
            if hops.isEmpty then peer
            else walk (isTrusted contains trustedProxyCidrs) peer hops.reverse
  else peer

end Resolution

/-! ### The chain -/

section Chain

variable {Hop Addr : Type} (read : Hop → Option Addr) (trusted : Addr → Bool)

/-- Read from the right, the hops settle on an address: the hops to its right are trusted, and it
is not, or is the leftmost. -/
def Settles (hops : List Hop) (addr : Addr) : Prop :=
  ∃ left hop right, hops = left ++ hop :: right ∧ read hop = some addr ∧
    (∀ other ∈ right, ∃ proxy, read other = some proxy ∧ trusted proxy = true) ∧
    (trusted addr = false ∨ left = [])

/-- Every hop is an address of a trusted proxy. -/
def AllTrusted (hops : List Hop) : Prop :=
  ∀ hop ∈ hops, ∃ proxy, read hop = some proxy ∧ trusted proxy = true

end Chain

section Chain

variable {Hop Addr : Type} {read : Hop → Option Addr} {trusted : Addr → Bool}

theorem not_settles_nil {addr : Addr} : ¬ Settles read trusted [] addr := by
  rintro ⟨left, hop, right, heq, -⟩
  exact List.append_ne_nil_of_right_ne_nil left (List.cons_ne_nil hop right) heq.symm

/-- A chain is read on its right part first. -/
theorem settles_append {left right : List Hop} {addr : Addr} :
    Settles read trusted (left ++ right) addr ↔
      (Settles read trusted right addr ∧ (trusted addr = false ∨ left = [])) ∨
        AllTrusted read trusted right ∧ Settles read trusted left addr := by
  constructor
  · rintro ⟨before, hop, after, heq, hread, hafter, hend⟩
    rcases List.append_eq_append_iff.mp heq with ⟨more, rfl, hright⟩ | ⟨more, rfl, hmore⟩
    · -- the hop is in the right part
      refine Or.inl ⟨⟨more, hop, after, hright, hread, hafter, ?_⟩, ?_⟩
      · rcases hend with hend | hend
        · exact Or.inl hend
        · exact Or.inr (List.append_eq_nil_iff.mp hend).2
      · rcases hend with hend | hend
        · exact Or.inl hend
        · exact Or.inr (List.append_eq_nil_iff.mp hend).1
    · cases more with
      | nil =>
          -- the hop is the first of the right part
          rw [List.nil_append] at hmore
          rw [List.append_nil]
          refine Or.inl ⟨⟨[], hop, after, hmore.symm, hread, hafter, Or.inr rfl⟩, hend⟩
      | cons first more =>
          rw [List.cons_append, List.cons.injEq] at hmore
          obtain ⟨rfl, rfl⟩ := hmore
          refine Or.inr ⟨?_, before, hop, more, rfl, hread, ?_, hend⟩
          · intro other hother
            exact hafter other (List.mem_append_right _ hother)
          · intro other hother
            exact hafter other (List.mem_append_left _ hother)
  · rintro (⟨⟨before, hop, after, rfl, hread, hafter, hend⟩, hleft⟩ |
      ⟨hright, before, hop, after, rfl, hread, hafter, hend⟩)
    · refine ⟨left ++ before, hop, after, (List.append_assoc ..).symm, hread, hafter, ?_⟩
      rcases hend with hend | rfl
      · exact Or.inl hend
      · rcases hleft with hleft | rfl
        · exact Or.inl hleft
        · exact Or.inr rfl
    · refine ⟨before, hop, after ++ right, by simp, hread, ?_, hend⟩
      intro other hother
      rcases List.mem_append.mp hother with hother | hother
      · exact hafter other hother
      · exact hright other hother

/-- One hop at the right end. -/
theorem settles_concat {hops : List Hop} {hop : Hop} {addr : Addr} :
    Settles read trusted (hops ++ [hop]) addr ↔
      (read hop = some addr ∧ (trusted addr = false ∨ hops = [])) ∨
        (∃ proxy, read hop = some proxy ∧ trusted proxy = true) ∧
          Settles read trusted hops addr := by
  have hone : Settles read trusted [hop] addr ↔ read hop = some addr := by
    constructor
    · rintro ⟨left, other, right, heq, hread, -⟩
      cases left with
      | nil =>
          cases heq
          exact hread
      | cons first left =>
          rw [List.cons_append, List.cons.injEq] at heq
          exact (List.append_ne_nil_of_right_ne_nil left (List.cons_ne_nil other right)
            heq.2.symm).elim
    · intro hread
      exact ⟨[], hop, [], rfl, hread, fun _ h => (List.not_mem_nil h).elim, Or.inr rfl⟩
  rw [settles_append, hone, AllTrusted, List.forall_mem_singleton]

/-- A chain settles on one address at most. -/
theorem Settles.unique {hops : List Hop} {a b : Addr} (ha : Settles read trusted hops a)
    (hb : Settles read trusted hops b) : a = b := by
  induction hops using List.reverseRecOn with
  | nil => exact (not_settles_nil ha).elim
  | append_singleton hops hop ih =>
      rcases settles_concat.mp ha with ⟨hreada, ha⟩ | ⟨⟨proxy, hproxy, htrusted⟩, ha⟩
      · rcases settles_concat.mp hb with ⟨hreadb, -⟩ | ⟨⟨proxy, hproxy, htrusted⟩, hb⟩
        · exact Option.some.inj (hreada.symm.trans hreadb)
        · obtain rfl := Option.some.inj (hreada.symm.trans hproxy)
          rcases ha with ha | rfl
          · rw [ha] at htrusted
            cases htrusted
          · exact (not_settles_nil hb).elim
      · rcases settles_concat.mp hb with ⟨hreadb, hb⟩ | ⟨-, hb⟩
        · obtain rfl := Option.some.inj (hreadb.symm.trans hproxy)
          rcases hb with hb | rfl
          · rw [hb] at htrusted
            cases htrusted
          · exact (not_settles_nil ha).elim
        · exact ih ha hb

/-- A chain that settles on a trusted address has no malformed hop. -/
theorem Settles.read_ne_none {hops : List Hop} {addr : Addr} (h : Settles read trusted hops addr)
    (htrusted : trusted addr = true) : ∀ hop ∈ hops, read hop ≠ none := by
  obtain ⟨left, hop, right, rfl, hread, hright, hend⟩ := h
  rcases hend with hend | rfl
  · rw [htrusted] at hend
    cases hend
  · intro other hother hnone
    rcases List.mem_cons.mp hother with rfl | hother
    · rw [hread] at hnone
      cases hnone
    · obtain ⟨proxy, hproxy, -⟩ := hright other hother
      rw [hproxy] at hnone
      cases hnone

/-- Trusted proxies settle on one of them. -/
theorem Settles.mem_trusted {hops : List Hop} {addr : Addr} (h : Settles read trusted hops addr)
    (hall : AllTrusted read trusted hops) : trusted addr = true := by
  obtain ⟨left, hop, right, rfl, hread, -⟩ := h
  obtain ⟨proxy, hproxy, htrusted⟩ := hall hop (by simp)
  rw [hread] at hproxy
  cases hproxy
  exact htrusted

theorem walk_of_not_trusted {current : Addr} (h : trusted current = false) (hops : List Addr) :
    walk trusted current hops = current := by
  cases hops with
  | nil => rfl
  | cons hop rest => rw [walk, h, if_neg Bool.false_ne_true]

/-- The loop ends with what a well-formed chain settles on. -/
theorem settles_walk {addrs : List Addr} {hops : List Hop} (hread : hops.map read = addrs.map some)
    (hne : hops ≠ []) {current : Addr} (hcurrent : trusted current = true) :
    Settles read trusted hops (walk trusted current addrs.reverse) := by
  induction hops using List.reverseRecOn generalizing addrs current with
  | nil => exact (hne rfl).elim
  | append_singleton hops hop ih =>
      rw [List.map_append, List.map_singleton] at hread
      obtain ⟨addrs, last, rfl, hhops, hhop⟩ := List.map_eq_append_iff.mp hread.symm
      obtain ⟨addr, rfl, haddr⟩ := List.map_eq_singleton_iff.mp hhop
      rw [List.reverse_append, List.reverse_singleton, List.singleton_append, walk, if_pos hcurrent,
        settles_concat]
      cases htrusted : trusted addr with
      | false =>
          rw [walk_of_not_trusted htrusted]
          exact Or.inl ⟨haddr.symm, Or.inl htrusted⟩
      | true =>
          by_cases hfirst : hops = []
          · subst hfirst
            obtain rfl := List.map_eq_nil_iff.mp hhops
            exact Or.inl ⟨haddr.symm, Or.inr rfl⟩
          · exact Or.inr ⟨⟨addr, haddr.symm, htrusted⟩, ih hhops.symm hfirst htrusted⟩

end Chain

/-! ### The hops of a header -/

/-- The hops of a line. -/
def lineHops (value : List UInt8) : List (List UInt8) := value.splitOn 44

/-- The lines of the forwarding chain. -/
def forwardedLines (headers : HeaderMap) : List (List UInt8) := headers.getAll "x-forwarded-for"

/-- The hops of all the lines, one line after the other. -/
def forwardedChain (lines : List (List UInt8)) : List (List UInt8) := lines.flatMap lineHops

section Lines

variable {Addr IpNet : Type} (parse : List Char → Option Addr) (contains : IpNet → Addr → Bool)

/-- The address a hop is, when it is well formed. -/
def hopAddr (hop : List UInt8) : Option Addr := (toStr hop).bind fun text => parse (trimChars text)

/-- The address of a request: the peer, unless it is a trusted proxy, and else what the forwarding
chain settles on. -/
def FollowsChain (headers : HeaderMap) (peer : Addr) (trustedProxyCidrs : List IpNet)
    (result : Addr) : Prop :=
  (isTrusted contains trustedProxyCidrs peer = false → result = peer) ∧
    (isTrusted contains trustedProxyCidrs peer = true → ∀ addr,
      Settles (hopAddr parse) (isTrusted contains trustedProxyCidrs)
        (forwardedChain (forwardedLines headers)) addr → result = addr)

/-- The peer is no trusted proxy, or there is no line, or the chain settles on nothing, or the
first line is well formed and the later ones either are trusted proxies only or settle, on an
address that is not trusted, as the first does. -/
def FirstLineDecides (headers : HeaderMap) (peer : Addr) (trustedProxyCidrs : List IpNet) : Prop :=
  isTrusted contains trustedProxyCidrs peer = true →
    match forwardedLines headers with
    | [] => True
    | first :: later =>
        let trusted := isTrusted contains trustedProxyCidrs
        (∀ addr, ¬ Settles (hopAddr parse) trusted (forwardedChain (first :: later)) addr) ∨
          (∀ hop ∈ lineHops first, hopAddr parse hop ≠ none) ∧
            (AllTrusted (hopAddr parse) trusted (forwardedChain later) ∨
              ∃ addr, trusted addr = false ∧
                Settles (hopAddr parse) trusted (forwardedChain later) addr ∧
                Settles (hopAddr parse) trusted (lineHops first) addr)

end Lines

section Lines

variable {Addr IpNet : Type} {parse : List Char → Option Addr} {contains : IpNet → Addr → Bool}

/-- The character of a byte of a header. -/
def byteChar (b : UInt8) : Char := Char.ofNat b.toNat

theorem byteChar_eq_comma_iff (b : UInt8) : byteChar b = ',' ↔ b = 44 := by
  constructor
  · intro h
    have hvalid : b.toNat.isValidChar := Or.inl (by have := b.toNat_lt; omega)
    have hnat := congrArg Char.toNat h
    rw [byteChar, Char.ofNat, dif_pos hvalid] at hnat
    exact UInt8.toNat_inj.mp hnat
  · rintro rfl
    rfl

/-- Cutting a line at its commas before or after it is read as text. -/
theorem splitOn_map_byteChar (value : List UInt8) :
    (value.map byteChar).splitOn ',' = (lineHops value).map fun hop => hop.map byteChar := by
  unfold lineHops
  induction value with
  | nil => rfl
  | cons b value ih =>
      rw [List.map_cons, List.splitOn_cons_eq_if_modifyHead, List.splitOn_cons_eq_if_modifyHead, ih]
      by_cases hb : b = 44
      · rw [if_pos (by simpa using (byteChar_eq_comma_iff b).mpr hb), if_pos (by simpa using hb)]
        rfl
      · rw [if_neg (by simpa using mt (byteChar_eq_comma_iff b).mp hb), if_neg (by simpa using hb)]
        cases value.splitOn 44 <;> rfl

/-- The hops hold the bytes of the line but for its commas. -/
theorem flatten_lineHops (value : List UInt8) :
    (lineHops value).flatten = value.filter (· ≠ 44) := by
  unfold lineHops
  induction value with
  | nil => rfl
  | cons b value ih =>
      rw [List.splitOn_cons_eq_if_modifyHead]
      by_cases hb : b = 44
      · rw [if_pos (by simpa using hb), List.filter_cons_of_neg (by simpa using hb), ← ih]
        rfl
      · rw [if_neg (by simpa using hb), List.filter_cons_of_pos (by simpa using hb), ← ih]
        cases hsplit : value.splitOn 44 with
        | nil => exact (List.splitOn_ne_nil 44 value hsplit).elim
        | cons first hops => rfl

theorem toStr_of_visible {value : List UInt8} (h : ∀ b ∈ value, isVisible b = true) :
    toStr value = some (value.map byteChar) := by
  rw [toStr, if_pos (List.all_eq_true.mpr h)]
  rfl

theorem toStr_of_not_visible {value : List UInt8} {b : UInt8} (hmem : b ∈ value)
    (hb : isVisible b = false) : toStr value = none := by
  rw [toStr, if_neg]
  intro hall
  rw [List.all_eq_true.mp hall b hmem] at hb
  cases hb

/-- The text of a line is read when all of its hops are, as their addresses. -/
theorem mapM_parse_eq_some_iff (value : List UInt8) (addrs : List Addr) :
    ((toStr value).bind fun forwarded =>
        ((forwarded.splitOn ',').map trimChars).mapM parse) = some addrs ↔
      (lineHops value).map (hopAddr parse) = addrs.map some := by
  by_cases hvisible : ∀ b ∈ value, isVisible b = true
  · have hhops : ∀ hop ∈ lineHops value,
        hopAddr parse hop = parse (trimChars (hop.map byteChar)) := by
      intro hop hhop
      have hbytes : ∀ b ∈ hop, isVisible b = true := by
        intro b hb
        have hmem : b ∈ (lineHops value).flatten := List.mem_flatten.mpr ⟨hop, hhop, hb⟩
        rw [flatten_lineHops] at hmem
        exact hvisible b (List.mem_filter.mp hmem).1
      rw [hopAddr, toStr_of_visible hbytes, Option.bind_some]
    rw [toStr_of_visible hvisible, Option.bind_some, optionMapM_eq_some_iff, splitOn_map_byteChar,
      List.map_map, List.map_map, List.map_congr_left hhops]
    rfl
  · push Not at hvisible
    obtain ⟨b, hmem, hb⟩ := hvisible
    rw [ne_eq, Bool.not_eq_true] at hb
    rw [toStr_of_not_visible hmem hb]
    refine iff_of_false (fun h => by cases h) ?_
    intro h
    -- the byte is no comma, so a hop has it
    have hcomma : b ≠ 44 := by
      rintro rfl
      exact absurd hb (by decide)
    have hflat : b ∈ (lineHops value).flatten := by
      rw [flatten_lineHops]
      exact List.mem_filter.mpr ⟨hmem, by simpa using hcomma⟩
    obtain ⟨hop, hhop, hbyte⟩ := List.mem_flatten.mp hflat
    have hnone : hopAddr parse hop = none := by
      rw [hopAddr, toStr_of_not_visible hbyte hb, Option.bind_none]
    have hsome : hopAddr parse hop ∈ addrs.map some := h ▸ List.mem_map_of_mem hhop
    rw [hnone] at hsome
    obtain ⟨addr, -, haddr⟩ := List.mem_map.mp hsome
    cases haddr

variable {headers : HeaderMap} {peer : Addr} {trustedProxyCidrs : List IpNet}

/-- What stands to the left of an address the chain settles on makes no difference. -/
theorem FollowsChain.eq_of_right {result : Addr}
    (h : FollowsChain parse contains headers peer trustedProxyCidrs result)
    (htrusted : isTrusted contains trustedProxyCidrs peer = true) {left right : List (List UInt8)}
    (hchain : forwardedChain (forwardedLines headers) = left ++ right) {addr : Addr}
    (hsettles : Settles (hopAddr parse) (isTrusted contains trustedProxyCidrs) right addr)
    (haddr : isTrusted contains trustedProxyCidrs addr = false) : result = addr := by
  refine h.2 htrusted addr ?_
  rw [hchain]
  exact settles_append.mpr (Or.inl ⟨hsettles, Or.inl haddr⟩)

theorem clientIp_of_not_trusted (h : isTrusted contains trustedProxyCidrs peer = false) :
    clientIp parse contains headers peer trustedProxyCidrs = peer := by
  rw [clientIp, h, if_neg Bool.false_ne_true]

theorem lineHops_ne_nil (value : List UInt8) : lineHops value ≠ [] := List.splitOn_ne_nil 44 value

/-- Behind a trusted proxy the first line is read, and no other. -/
theorem clientIp_of_line {first : List UInt8} {later : List (List UInt8)}
    (hlines : forwardedLines headers = first :: later)
    (htrusted : isTrusted contains trustedProxyCidrs peer = true) :
    clientIp parse contains headers peer trustedProxyCidrs =
      match (toStr first).bind fun forwarded =>
        ((forwarded.splitOn ',').map trimChars).mapM parse with
      | none => peer
      | some hops =>
          if hops.isEmpty then peer
          else walk (isTrusted contains trustedProxyCidrs) peer hops.reverse := by
  have hget : headers.get "x-forwarded-for" = some first := by
    rw [HeaderMap.get]
    exact congrArg List.head? hlines
  rw [clientIp, if_pos htrusted, hget, Option.bind_some]
  cases toStr first <;> rfl

/-- With a malformed hop in the first line the peer is taken. -/
theorem clientIp_of_malformed {first : List UInt8} {later : List (List UInt8)}
    (hlines : forwardedLines headers = first :: later)
    (htrusted : isTrusted contains trustedProxyCidrs peer = true) {hop : List UInt8}
    (hmem : hop ∈ lineHops first) (hhop : hopAddr parse hop = none) :
    clientIp parse contains headers peer trustedProxyCidrs = peer := by
  rw [clientIp_of_line hlines htrusted]
  cases hread : (toStr first).bind fun forwarded =>
      ((forwarded.splitOn ',').map trimChars).mapM parse with
  | none => rfl
  | some addrs =>
      have hsome : hopAddr parse hop ∈ addrs.map some :=
        (mapM_parse_eq_some_iff first addrs).mp hread ▸ List.mem_map_of_mem hmem
      rw [hhop] at hsome
      obtain ⟨addr, -, haddr⟩ := List.mem_map.mp hsome
      cases haddr

/-- A first line that is well formed is walked from the right. -/
theorem settles_clientIp {first : List UInt8} {later : List (List UInt8)}
    (hlines : forwardedLines headers = first :: later)
    (htrusted : isTrusted contains trustedProxyCidrs peer = true)
    (hhops : ∀ hop ∈ lineHops first, hopAddr parse hop ≠ none) :
    Settles (hopAddr parse) (isTrusted contains trustedProxyCidrs) (lineHops first)
      (clientIp parse contains headers peer trustedProxyCidrs) := by
  obtain ⟨addrs, haddrs⟩ : ∃ addrs : List Addr,
      (lineHops first).map (hopAddr parse) = addrs.map some := by
    generalize lineHops first = hops at hhops
    induction hops with
    | nil => exact ⟨[], rfl⟩
    | cons hop hops ih =>
        obtain ⟨hhop, hhops⟩ := List.forall_mem_cons.mp hhops
        obtain ⟨addrs, haddrs⟩ := ih hhops
        obtain ⟨addr, haddr⟩ := Option.ne_none_iff_exists'.mp hhop
        exact ⟨addr :: addrs, by rw [List.map_cons, List.map_cons, haddr, haddrs]⟩
  have hne : addrs.isEmpty = false := by
    cases addrs with
    | nil => exact (lineHops_ne_nil first (List.map_eq_nil_iff.mp haddrs)).elim
    | cons addr addrs => rfl
  rw [clientIp_of_line hlines htrusted, (mapM_parse_eq_some_iff first addrs).mpr haddrs]
  simp only [hne, Bool.false_eq_true, if_false]
  exact settles_walk haddrs (lineHops_ne_nil first) htrusted

/-- The address of a request is what its chain settles on exactly when the first line decides. -/
theorem followsChain_clientIp_iff (headers : HeaderMap) (peer : Addr)
    (trustedProxyCidrs : List IpNet) :
    FollowsChain parse contains headers peer trustedProxyCidrs
        (clientIp parse contains headers peer trustedProxyCidrs) ↔
      FirstLineDecides parse contains headers peer trustedProxyCidrs := by
  unfold FollowsChain FirstLineDecides
  cases htrusted : isTrusted contains trustedProxyCidrs peer with
  | false => simp [clientIp_of_not_trusted htrusted]
  | true =>
      simp only [Bool.true_eq_false, false_imp_iff, true_and, true_imp_iff]
      cases hlines : forwardedLines headers with
      | nil =>
          refine iff_of_true (fun addr h => ?_) trivial
          exact (not_settles_nil h).elim
      | cons first later =>
          have hchain : forwardedChain (first :: later) = lineHops first ++ forwardedChain later :=
            List.flatMap_cons
          constructor
          · intro hfollows
            by_cases hsettles : ∃ addr, Settles (hopAddr parse)
                (isTrusted contains trustedProxyCidrs) (forwardedChain (first :: later)) addr
            · obtain ⟨addr, hchainAddr⟩ := hsettles
              have hresult := hfollows addr hchainAddr
              have hhops : ∀ hop ∈ lineHops first, hopAddr parse hop ≠ none := by
                intro hop hmem hnone
                rw [clientIp_of_malformed hlines htrusted hmem hnone] at hresult
                subst hresult
                rw [hchain, settles_append] at hchainAddr
                rcases hchainAddr with ⟨-, hend⟩ | ⟨-, hsettles⟩
                · rcases hend with hend | hend
                  · rw [htrusted] at hend
                    cases hend
                  · exact lineHops_ne_nil first hend
                · exact hsettles.read_ne_none htrusted hop hmem hnone
              refine Or.inr ⟨hhops, ?_⟩
              have hfirst := settles_clientIp hlines htrusted hhops
              rw [hresult] at hfirst
              rw [hchain, settles_append] at hchainAddr
              rcases hchainAddr with ⟨hlater, hend⟩ | ⟨hlater, -⟩
              · rcases hend with hend | hend
                · exact Or.inr ⟨addr, hend, hlater, hfirst⟩
                · exact (lineHops_ne_nil first hend).elim
              · exact Or.inl hlater
            · exact Or.inl fun addr h => hsettles ⟨addr, h⟩
          · rintro (hnone | ⟨hhops, hlater⟩) addr hchainAddr
            · exact (hnone addr hchainAddr).elim
            · have hfirst := settles_clientIp hlines htrusted hhops
              rw [hchain] at hchainAddr
              rcases hlater with hall | ⟨other, hother, hlater, hsame⟩
              · rcases settles_append.mp hchainAddr with ⟨hsettles, hend⟩ | ⟨-, hsettles⟩
                · rcases hend with hend | hend
                  · rw [hsettles.mem_trusted hall] at hend
                    cases hend
                  · exact (lineHops_ne_nil first hend).elim
                · exact hfirst.unique hsettles
              · have hsettles : Settles (hopAddr parse) (isTrusted contains trustedProxyCidrs)
                    (lineHops first ++ forwardedChain later) other :=
                  settles_append.mpr (Or.inl ⟨hlater, Or.inl hother⟩)
                rw [hchainAddr.unique hsettles]
                exact hfirst.unique hsame

end Lines

/-! ### A request in two lines -/

/-- An IPv4 address in dotted form. -/
def parseIpv4 (text : List Char) : Option (List ℕ) := do
  let parts := text.splitOn '.'
  if parts.length ≠ 4 then none
  parts.mapM fun digits =>
    let octet : ℕ := digits.foldl (fun n c => 10 * n + (c.toNat - 48)) 0
    if digits.isEmpty || !digits.all isAsciiDigit || (digits.head? == some '0' && digits != ['0'])
      || decide (255 < octet) then none
    else some octet

/-- `198.51.100.25` reaches the proxy `10.0.0.2` with a line of its own making; the proxy adds the
address in a second line. -/
theorem clientIp_takes_first_line :
    ¬ FollowsChain parseIpv4 List.isPrefixOf
        [("x-forwarded-for", "203.0.113.99".toList.map fun c => UInt8.ofNat c.toNat),
          ("x-forwarded-for", "198.51.100.25".toList.map fun c => UInt8.ofNat c.toNat)]
        [10, 0, 0, 2] [[10]]
        (clientIp parseIpv4 List.isPrefixOf
          [("x-forwarded-for", "203.0.113.99".toList.map fun c => UInt8.ofNat c.toNat),
            ("x-forwarded-for", "198.51.100.25".toList.map fun c => UInt8.ofNat c.toNat)]
          [10, 0, 0, 2] [[10]]) := by
  intro h
  have hresult : clientIp parseIpv4 List.isPrefixOf
      [("x-forwarded-for", "203.0.113.99".toList.map fun c => UInt8.ofNat c.toNat),
        ("x-forwarded-for", "198.51.100.25".toList.map fun c => UInt8.ofNat c.toNat)]
      [10, 0, 0, 2] [[10]] = [203, 0, 113, 99] := by decide +kernel
  have hsettles := h.2 (by decide +kernel) [198, 51, 100, 25]
    ⟨["203.0.113.99".toList.map fun c => UInt8.ofNat c.toNat],
      "198.51.100.25".toList.map fun c => UInt8.ofNat c.toNat, [], by decide +kernel,
      by decide +kernel, fun _ hother => (List.not_mem_nil hother).elim, Or.inl (by decide +kernel)⟩
  rw [hresult] at hsettles
  exact absurd hsettles (by decide)

end Beampipe.Api
