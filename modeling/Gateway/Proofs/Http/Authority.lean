import Gateway.Proofs.Http.Uri
import Mathlib.Data.List.Basic

namespace Gateway.Http.Uri

/-! Authorities that stand alone as text, and the hosts that they name, with or without a
port. -/

private theorem isAuthorityCharacter_of_digit {character : Char}
    (digit : Decimal.isDigit character = true) :
    isAuthorityCharacter character = true := by
  simp [isAuthorityCharacter, isAlphanumeric, digit]

private theorem visible_of_isAuthorityCharacter {character : Char}
    (plain : isAuthorityCharacter character = true) :
    33 ≤ character.toNat ∧ character.toNat < 127 := by
  have signs : ∀ sign ∈ "!$&'()*+,-.;=_~".toList, 33 ≤ sign.toNat ∧ sign.toNat < 127 := by
    simp
  have letters : character.isAlpha =
      (decide ('A'.val ≤ character.val ∧ character.val ≤ 'Z'.val) ||
        (decide ('a'.val ≤ character.val) && decide (character.val ≤ 'z'.val))) := rfl
  simp only [isAuthorityCharacter, isAlphanumeric, letters, Decimal.isDigit,
    Bool.or_eq_true, Bool.and_eq_true, decide_eq_true_iff, List.contains_iff_mem,
    UInt32.le_iff_toNat_le, Char.le_def] at plain
  rcases plain with ((range | range) | range) | sign
  case inr => exact signs character sign
  all_goals exact ⟨Nat.le_trans (by decide) range.1,
    Nat.lt_of_le_of_lt range.2 (by decide)⟩

def HostCharacter (character : Char) : Prop :=
  isAuthorityCharacter character = true ∨ character ∈ [':', '[', ']']

theorem HostCharacter.visible {character : Char} (valid : HostCharacter character) :
    33 ≤ character.toNat ∧ character.toNat < 127 := by
  have signs : ∀ sign ∈ [':', '[', ']'], 33 ≤ sign.toNat ∧ sign.toNat < 127 := by simp
  exact valid.elim visible_of_isAuthorityCharacter (signs character)

private theorem HostCharacter.not_ending {character : Char}
    (valid : HostCharacter character) :
    endsAuthority character = false := by
  rw [Bool.eq_false_iff]
  intro ends
  have marks : character = '/' ∨ character = '?' ∨ character = '#' := by
    simpa [endsAuthority, or_assoc] using ends
  rcases valid with ordinary | sign
  · rcases marks with rfl | rfl | rfl <;> exact absurd ordinary (by decide)
  · rcases marks with rfl | rfl | rfl <;> exact absurd sign (by decide)

namespace AuthorityScan

variable {scan next : AuthorityScan} {character : Char} {characters : List Char}

private theorem run_append (scan : AuthorityScan) (front back : List Char) :
    scan.run (front ++ back) = scan.run front >>= fun middle => middle.run back := by
  induction front generalizing scan with
  | nil => rfl
  | cons character rest induction =>
      rw [List.cons_append, run, run]
      cases scan.step character with
      | error fault => rfl
      | ok next => exact induction next

theorem step_of_plain (plain : isAuthorityCharacter character = true) :
    scan.step character = .ok scan := by
  unfold step
  split
  case h_6 => exact if_pos plain
  all_goals exact absurd plain (by decide)

theorem run_of_plain
    (plain : ∀ character ∈ characters,
      isAuthorityCharacter character = true ∨ character = ':')
    (few : scan.colons + characters.count ':' ≤ 8) :
    scan.run characters =
      .ok { scan with colons := scan.colons + characters.count ':' } := by
  induction characters generalizing scan with
  | nil => rfl
  | cons character rest induction =>
      rcases List.forall_mem_cons.1 plain with ⟨first, others⟩
      rw [run]
      rcases first with ordinary | rfl
      · have uncounted : (character :: rest).count ':' = rest.count ':' :=
          List.count_cons_of_ne fun same => absurd (same ▸ ordinary) (by decide)
        rw [uncounted] at few ⊢
        rw [step_of_plain ordinary]
        exact induction others few
      · rw [List.count_cons_self] at few ⊢
        have step : scan.step ':' = .ok { scan with colons := scan.colons + 1 } :=
          if_neg (by omega)
        have counted : scan.colons + 1 + rest.count ':' ≤ 8 := by omega
        rw [step, Nat.add_comm (rest.count ':') 1, ← Nat.add_assoc]
        exact induction others counted

theorem colons_step (other : character ≠ ':') (step : scan.step character = .ok next) :
    next.colons ≤ scan.colons := by
  unfold AuthorityScan.step at step
  split at step
  case h_1 => exact absurd rfl other
  case h_2 | h_3 =>
    split at step
    · cases step
    · cases step
      simp
  case h_4 | h_5 =>
    cases step
    simp
  case h_6 =>
    split at step
    · cases step
      exact Nat.le_refl _
    · cases step

private theorem colons_run (others : ':' ∉ characters)
    (run : scan.run characters = .ok next) :
    next.colons ≤ scan.colons := by
  induction characters generalizing scan with
  | nil =>
      cases run
      exact Nat.le_refl _
  | cons character rest induction =>
      rw [List.mem_cons, not_or] at others
      rcases bind_eq_ok.1 run with ⟨middle, step, later⟩
      exact (induction others.2 later).trans (colons_step (Ne.symm others.1) step)

end AuthorityScan

private theorem checkAuthority_eq_ok_iff {authority : List Char} :
    checkAuthority authority = .ok () ↔ ∃ scan,
      AuthorityScan.run {} authority = .ok scan ∧ scan.opened = scan.closed ∧
        scan.colons ≤ 1 ∧ authority.getLast? ≠ some '@' ∧
      scan.percent = false := by
  rw [checkAuthority, bind_eq_ok]
  refine exists_congr fun scan => and_congr_right fun _ => ?_
  split
  · rename_i faulty
    refine iff_of_false nofun fun ⟨closed, colons, last, percent⟩ => ?_
    simp [closed, last, percent, Nat.not_lt.2 colons] at faulty
  · rename_i faultless
    simpa [and_assoc] using faultless

private theorem parseAuthority_eq_ok_iff {text authority : List Char} :
    parseAuthority text = .ok authority ↔ authority = text ∧ text ≠ [] ∧
      checkAuthority text = .ok () ∧ ∀ character ∈ text,
        endsAuthority character = false := by
  have whole : text.dropWhile (fun character => !endsAuthority character) = [] ↔
      ∀ character ∈ text, endsAuthority character = false := by
    simp [List.dropWhile_eq_nil_iff]
  unfold parseAuthority
  split
  · rename_i nothing
    exact iff_of_false nofun fun holds => holds.2.1 (List.isEmpty_iff.1 nothing)
  · rename_i written
    rw [List.isEmpty_iff] at written
    rw [splitAuthority, bind_eq_ok]
    constructor
    · rintro ⟨⟨front, rest⟩, split, ends⟩
      rcases bind_eq_ok.1 split with ⟨⟨⟩, checked, parts⟩
      rcases Prod.mk.inj (Except.ok.inj parts) with ⟨rfl, rfl⟩
      dsimp only at ends
      split at ends
      · rename_i nothing
        have plain := whole.1 (List.isEmpty_iff.1 nothing)
        have same : text.takeWhile (fun character => !endsAuthority character) = text :=
          List.takeWhile_eq_self_iff.2 fun character member => by
            simp [plain character member]
        rw [same] at checked ends
        exact ⟨(Except.ok.inj ends).symm, written, checked, plain⟩
      · cases ends
    · rintro ⟨rfl, -, checked, plain⟩
      have same :
          authority.takeWhile (fun character => !endsAuthority character) = authority :=
        List.takeWhile_eq_self_iff.2 fun character member => by
          simp [plain character member]
      refine ⟨(authority, []), ?_, rfl⟩
      rw [same, whole.2 plain, checked]
      rfl

/-! Hosts as they are written: a name, or an address in brackets. -/

inductive Hostname : List Char → Prop where
  | name {host : List Char} (written : host ≠ [])
      (plain : ∀ sign ∈ [':', '@', '[', ']'], sign ∉ host) : Hostname host
  | address {inner : List Char} (plain : ∀ sign ∈ ['@', '[', ']'], sign ∉ inner) :
      Hostname ('[' :: inner ++ [']'])

/-- What may follow a host: nothing, or a port in decimal. -/
inductive Port : List Char → Prop where
  | absent : Port []
  | present {digits : List Char}
      (decimal : ∀ character ∈ digits, Decimal.isDigit character = true) :
      Port (':' :: digits)

/-- A host of which nothing stands in the way of reading it. -/
structure Plain (host : List Char) : Prop where
  characters : ∀ character ∈ host, HostCharacter character
  few : host.count ':' ≤ 8

section Hostname

variable {host : List Char} (hostname : Hostname host)

include hostname

private theorem Hostname.ne_nil : host ≠ [] := by
  cases hostname with
  | name written _ => exact written
  | address _ => exact nofun

private theorem Hostname.not_user : '@' ∉ host := by
  cases hostname with
  | name _ plain => exact plain '@' (by decide)
  | address plain =>
      intro member
      simp only [List.cons_append, List.mem_cons, List.mem_append] at member
      rcases member with same | member | same | member
      · exact absurd same (by decide)
      · exact plain '@' (by decide) member
      · exact absurd same (by decide)
      · cases member

/-- After a host no colon counts: there was none, or the bracket has made up for it. -/
theorem Hostname.colons {scan : AuthorityScan}
    (run : AuthorityScan.run {} host = .ok scan) :
    scan.colons = 0 := by
  cases hostname with
  | name _ plain =>
      exact Nat.le_zero.1 (AuthorityScan.colons_run (plain ':' (by decide)) run)
  | address _ =>
      -- Whatever was counted inside, the bracket at the end is the last step.
      rw [AuthorityScan.run_append] at run
      rcases bind_eq_ok.1 run with ⟨middle, -, closed⟩
      rcases bind_eq_ok.1 closed with ⟨last, step, ends⟩
      cases ends
      simp only [AuthorityScan.step] at step
      split at step <;> cases step
      rfl

end Hostname

section Port

variable {port : List Char} (ported : Port port)

include ported

theorem Port.plain : ∀ character ∈ port,
    isAuthorityCharacter character = true ∨ character = ':' := by
  intro character member
  cases ported with
  | absent => cases member
  | present decimal =>
      rcases List.mem_cons.1 member with rfl | member
      · exact .inr rfl
      · exact .inl (isAuthorityCharacter_of_digit (decimal character member))

theorem Port.hostCharacter {character : Char} (member : character ∈ port) :
    HostCharacter character := by
  rcases ported.plain character member with ordinary | rfl
  · exact .inl ordinary
  · exact .inr List.mem_cons_self

private theorem Port.not_user : '@' ∉ port := fun member =>
  absurd (ported.plain '@' member) (by decide)

theorem Port.run {scan : AuthorityScan} (uncounted : scan.colons = 0) :
    ∃ colons ≤ 1, scan.run port = .ok { scan with colons } := by
  cases ported with
  | absent => exact ⟨scan.colons, by omega, rfl⟩
  | @present digits decimal =>
      have without : ':' ∉ digits := fun member => absurd (decimal ':' member) (by decide)
      have one : (':' :: digits).count ':' = 1 := by
        rw [List.count_cons_self, List.count_eq_zero.2 without]
      refine ⟨scan.colons + 1, by omega, ?_⟩
      rw [AuthorityScan.run_of_plain (Port.present decimal).plain (by omega), one]

end Port

private theorem takeWhile_append_of_not_mem {sign : Char} {front : List Char}
    (absent : sign ∉ front) (back : List Char) :
    (front ++ back).takeWhile (fun character => character != sign) =
      front ++ back.takeWhile (fun character => character != sign) := by
  refine List.takeWhile_append_of_pos fun character member => bne_iff_ne.2 ?_
  rintro rfl
  exact absent member

private theorem afterUser_of_not_mem {authority : List Char} (nobody : '@' ∉ authority) :
    afterUser authority = authority := by
  have whole :=
    takeWhile_append_of_not_mem (fun member => nobody (List.mem_reverse.1 member)) []
  rw [List.append_nil, List.takeWhile_nil, List.append_nil] at whole
  rw [afterUser, whole, List.reverse_reverse]

section Both

variable {host port : List Char} (hostname : Hostname host) (ported : Port port)

include hostname ported

theorem checkAuthority_append : checkAuthority (host ++ port) = .ok () ↔
    ∃ scan, AuthorityScan.run {} host = .ok scan ∧ scan.opened = scan.closed ∧
      scan.percent = false := by
  have last : (host ++ port).getLast? ≠ some '@' := fun last =>
    (List.mem_append.1 (List.mem_of_getLast? last)).elim hostname.not_user ported.not_user
  rw [checkAuthority_eq_ok_iff, AuthorityScan.run_append]
  constructor
  · rintro ⟨scan, run, closed, -, -, percent⟩
    rcases bind_eq_ok.1 run with ⟨middle, first, second⟩
    rcases ported.run (hostname.colons first) with ⟨colons, -, behind⟩
    cases behind.symm.trans second
    exact ⟨middle, first, closed, percent⟩
  · rintro ⟨scan, run, closed, percent⟩
    rcases ported.run (hostname.colons run) with ⟨colons, few, behind⟩
    exact ⟨{ scan with colons }, bind_eq_ok.2 ⟨scan, run, behind⟩, closed, few, last,
      percent⟩

theorem parseAuthority_append {authority : List Char} :
    parseAuthority (host ++ port) = .ok authority ↔
      authority = host ++ port ∧ parseAuthority host = .ok host := by
  have alone := checkAuthority_append hostname Port.absent
  rw [List.append_nil] at alone
  rw [parseAuthority_eq_ok_iff, parseAuthority_eq_ok_iff,
    checkAuthority_append hostname ported, ← alone]
  refine and_congr_right fun _ => ?_
  constructor
  · rintro ⟨-, checked, plain⟩
    exact ⟨rfl, hostname.ne_nil, checked, fun character member =>
      plain character (List.mem_append_left port member)⟩
  · rintro ⟨-, -, checked, plain⟩
    refine ⟨List.append_ne_nil_of_left_ne_nil hostname.ne_nil port, checked,
      fun character member => ?_⟩
    rcases List.mem_append.1 member with member | member
    · exact plain character member
    · exact (ported.hostCharacter member).not_ending

theorem hostOf_append : hostOf (host ++ port) = host := by
  have whole : afterUser (host ++ port) = host ++ port := by
    refine afterUser_of_not_mem fun member => ?_
    exact (List.mem_append.1 member).elim hostname.not_user ported.not_user
  rw [hostOf, whole]
  cases hostname with
  | name written plain =>
      have unbracketed : (host ++ port).head? ≠ some '[' := by
        rw [List.head?_append_of_ne_nil _ written]
        exact fun bracket => plain '[' (by decide) (List.mem_of_mem_head? bracket)
      rw [if_neg unbracketed, takeWhile_append_of_not_mem (plain ':' (by decide))]
      cases ported <;> simp
  | @address inner plain =>
      have open_inside : ']' ∉ '[' :: inner := by
        rw [List.mem_cons, not_or]
        exact ⟨by decide, plain ']' (by decide)⟩
      have bracketed : ('[' :: inner ++ [']'] ++ port).head? = some '[' := rfl
      rw [if_pos bracketed, List.append_assoc, takeWhile_append_of_not_mem open_inside]
      simp

end Both

section Plain

variable {host : List Char} (hostname : Hostname host) (plain : Plain host)

include hostname plain

theorem Plain.run : ∃ scan, AuthorityScan.run {} host = .ok scan ∧
    scan.opened = scan.closed ∧ scan.percent = false := by
  cases hostname with
  | name _ bare =>
      have ordinary : ∀ character ∈ host,
          isAuthorityCharacter character = true ∨ character = ':' := by
        intro character member
        rcases plain.characters character member with ordinary | sign
        · exact .inl ordinary
        · have among : [':', '[', ']'] ⊆ [':', '@', '[', ']'] := by decide
          exact absurd member (bare character (among sign))
      exact ⟨_, AuthorityScan.run_of_plain ordinary (by simpa using plain.few), rfl, rfl⟩
  | @address inner bare =>
      have ordinary : ∀ character ∈ inner,
          isAuthorityCharacter character = true ∨ character = ':' := by
        intro character member
        have there : character ∈ '[' :: inner ++ [']'] := by simp [member]
        rcases plain.characters character there with ordinary | sign
        · exact .inl ordinary
        · simp only [List.mem_cons, List.not_mem_nil, or_false] at sign
          rcases sign with rfl | rfl | rfl
          · exact .inr rfl
          · exact absurd member (bare '[' (by decide))
          · exact absurd member (bare ']' (by decide))
      have few : inner.count ':' ≤ 8 := by simpa using plain.few
      have opened : AuthorityScan.step {} '[' = .ok { opened := true } := rfl
      refine ⟨{ opened := true, closed := true }, ?_, rfl, rfl⟩
      rw [List.cons_append, AuthorityScan.run, opened]
      refine (AuthorityScan.run_append { opened := true } inner [']']).trans ?_
      rw [AuthorityScan.run_of_plain ordinary (by simpa using few)]
      rfl

theorem parseAuthority_of_plain : parseAuthority host = .ok host := by
  have checked := (checkAuthority_append hostname .absent).2 (plain.run hostname)
  rw [List.append_nil] at checked
  exact parseAuthority_eq_ok_iff.2
    ⟨rfl, hostname.ne_nil, checked,
      fun character member => (plain.characters character member).not_ending⟩

end Plain

end Gateway.Http.Uri
