import AlarmServer.Proofs.Activations
import AlarmServer.Proofs.Outcomes
import Mathlib.Data.List.TakeWhile

/-!
# Configurations

A configuration keeps the rules or breaks some of them, and its validation reports the first that is
broken, in the order in which the rules are listed. Who may log in is told by the configuration:
anybody, if anonymous sessions are allowed; owners of tokens, if such are allowed; and users with
the password of the last entry that has their name. A configuration that keeps the rules lets
somebody in.
-/

namespace AlarmServer

/-! ### Rules -/

/-- What is left of a text without the white space at its ends. -/
def Text.trimmed (s : String) : List Char :=
  (Text.trimStart (Text.trimStart s.toList).reverse).reverse

/-- Nothing is left of a text that has white space only. -/
theorem Text.isBlankText_iff (s : String) :
    Text.isBlankText s = true ↔ Text.trimmed s = [] := by
  have hstart (cs : List Char) : Text.trimStart cs = [] ↔ ∀ c ∈ cs, Text.isBlank c = true := by
    rw [Text.trimStart, List.dropWhile_eq_nil_iff]
  rw [Text.trimmed, List.reverse_eq_nil_iff, hstart, Text.isBlankText, List.all_eq_true, ← hstart]
  simp only [List.mem_reverse]
  constructor
  · intro h
    simp [h]
  · intro h
    cases hcs : Text.trimStart s.toList with
    | nil => rfl
    | cons c cs =>
      -- what is left starts with a character that is not blank
      have hc : Text.isBlank c = false := by
        have hhead := List.head?_dropWhile_not Text.isBlank s.toList
        rwa [← Text.trimStart, hcs] at hhead
      rw [hcs] at h
      cases (h c List.mem_cons_self).symm.trans hc

namespace Config

/-- A rule for a configuration as a whole, or for one of its entries. -/
inductive Rule where
  /-- The server has a name. -/
  | serverNamed
  /-- Somebody may log in: anybody, or a user. -/
  | loginOffered
  /-- The user has a name. -/
  | userNamed (user : UserLogin)
  /-- The alarm has a name. -/
  | alarmNamed (alarm : AlarmConfig)
  /-- The alarm has a source. -/
  | alarmPlaced (alarm : AlarmConfig)
  /-- The alarm has a severity that there is. -/
  | alarmGraded (alarm : AlarmConfig)
  /-- The alarm has a name of its own, which none of the earlier alarms has. -/
  | alarmDistinct (earlier : List AlarmConfig) (alarm : AlarmConfig)

namespace Rule

/-- Does a configuration keep the rule? -/
def Holds (c : Config) : Rule → Prop
  | serverNamed => Text.trimmed c.server.applicationName ≠ []
  | loginOffered => c.access.allowAnonymous = true ∨ c.access.users ≠ []
  | userNamed u => u.userName ≠ ""
  | alarmNamed a => Text.trimmed a.name ≠ []
  | alarmPlaced a => Text.trimmed a.source ≠ []
  | alarmGraded a => 1 ≤ a.severity.toNat ∧ a.severity.toNat ≤ 1000
  | alarmDistinct earlier a => ∀ b ∈ earlier, b.name ≠ a.name

instance (c : Config) (r : Rule) : Decidable (r.Holds c) :=
  match r with
  | serverNamed => inferInstanceAs (Decidable (_ ≠ _))
  | loginOffered => inferInstanceAs (Decidable (_ ∨ _))
  | userNamed _ => inferInstanceAs (Decidable (_ ≠ _))
  | alarmNamed _ => inferInstanceAs (Decidable (_ ≠ _))
  | alarmPlaced _ => inferInstanceAs (Decidable (_ ≠ _))
  | alarmGraded _ => inferInstanceAs (Decidable (_ ∧ _))
  | alarmDistinct earlier a => inferInstanceAs (Decidable (∀ b ∈ earlier, b.name ≠ a.name))

/-- What is said of a configuration that breaks the rule. -/
def complaint : Rule → String
  | serverNamed => "server.application_name is empty"
  | loginOffered => "anonymous logins are disabled and no users are configured"
  | userNamed _ => "user with empty user_name"
  | alarmNamed _ => "condition with empty name"
  | alarmPlaced a => "condition '" ++ a.name ++ "' has no source"
  | alarmGraded a => "condition '" ++ a.name ++ "' severity " ++ toString a.severity.toNat ++
    " outside 1..=1000"
  | alarmDistinct _ a => "duplicate condition name '" ++ a.name ++ "'"

end Rule

/-- The rules for alarms that follow on earlier ones, in order. -/
def alarmRules (earlier : List AlarmConfig) : List AlarmConfig → List Rule
  | [] => []
  | a :: as => [.alarmNamed a, .alarmPlaced a, .alarmGraded a, .alarmDistinct earlier a] ++
    alarmRules (earlier ++ [a]) as

/-- All rules for a configuration, in order. -/
def rules (c : Config) : List Rule :=
  [.serverNamed, .loginOffered] ++ c.access.users.map .userNamed ++ alarmRules [] c.alarms

/-- A configuration that keeps all rules. -/
structure Valid (c : Config) : Prop where
  /-- The server has a name. -/
  server : Text.trimmed c.server.applicationName ≠ []
  /-- Anonymous sessions are allowed, or there are users. -/
  login : c.access.allowAnonymous = true ∨ c.access.users ≠ []
  /-- All users have names. -/
  users : ∀ u ∈ c.access.users, u.userName ≠ ""
  /-- All alarms have names, sources and severities from 1 to 1000. -/
  alarms : ∀ a ∈ c.alarms, Text.trimmed a.name ≠ [] ∧ Text.trimmed a.source ≠ [] ∧
    1 ≤ a.severity.toNat ∧ a.severity.toNat ≤ 1000
  /-- No two alarms have one name. -/
  names : (c.alarms.map AlarmConfig.name).Nodup

/-- The rules for alarms are kept if each alarm keeps those for one, and their names are new and
different. -/
theorem holds_alarmRules_iff (c : Config) (earlier as : List AlarmConfig) :
    (∀ r ∈ alarmRules earlier as, r.Holds c) ↔
      (∀ a ∈ as, Text.trimmed a.name ≠ [] ∧ Text.trimmed a.source ≠ [] ∧
        1 ≤ a.severity.toNat ∧ a.severity.toNat ≤ 1000) ∧
      (∀ a ∈ as, ∀ b ∈ earlier, b.name ≠ a.name) ∧ (as.map AlarmConfig.name).Nodup := by
  induction as generalizing earlier with
  | nil => simp [alarmRules]
  | cons a as ih =>
    rw [alarmRules, List.forall_mem_append, ih]
    simp only [List.forall_mem_cons, Rule.Holds, List.map_cons, List.nodup_cons, List.mem_map,
      List.forall_mem_append, List.not_mem_nil, false_implies, implies_true, and_true, not_exists]
    constructor
    · rintro ⟨⟨hname, hsource, hseverity, hnew⟩, hall, hnext, hnodup⟩
      refine ⟨⟨⟨hname, hsource, hseverity⟩, hall⟩, ⟨hnew, fun b hb => (hnext b hb).1⟩, ?_, hnodup⟩
      rintro b ⟨hb, he⟩
      exact (hnext b hb).2 he.symm
    · rintro ⟨⟨⟨hname, hsource, hseverity⟩, hall⟩, ⟨hnew, hnext⟩, hother, hnodup⟩
      refine ⟨⟨hname, hsource, hseverity, hnew⟩, hall, fun b hb => ⟨hnext b hb, ?_⟩, hnodup⟩
      exact fun he => hother b ⟨hb, he.symm⟩

private theorem valid_iff_holds (c : Config) : c.Valid ↔ ∀ r ∈ c.rules, r.Holds c := by
  rw [rules, List.forall_mem_append, holds_alarmRules_iff]
  simp only [List.forall_mem_append, List.forall_mem_cons, List.forall_mem_map, Rule.Holds,
    List.not_mem_nil, false_implies, implies_true, and_true, true_and]
  constructor
  · intro h
    exact ⟨⟨⟨h.server, h.login⟩, h.users⟩, h.alarms, h.names⟩
  · rintro ⟨⟨⟨hserver, hlogin⟩, husers⟩, halarms, hnames⟩
    exact ⟨hserver, hlogin, husers, halarms, hnames⟩

/-! ### Validation -/

/-- Go through some rules, up to the first that is broken. -/
def check (c : Config) (rules : List Rule) : Except Error Unit :=
  match rules.find? fun r => ¬ r.Holds c with
  | none => .ok ()
  | some r => .error (.config r.complaint)

private theorem check_append (c : Config) (rules rules' : List Rule) :
    c.check (rules ++ rules') = c.check rules >>= fun _ => c.check rules' := by
  unfold check
  rw [List.find?_append]
  cases rules.find? fun r => ¬ r.Holds c <;> rfl

private theorem check_cons (c : Config) (r : Rule) (rules : List Rule) :
    c.check (r :: rules) =
      if r.Holds c then c.check rules else .error (.config r.complaint) := by
  unfold check
  by_cases h : r.Holds c <;> simp [h]

private theorem check_eq_ok_iff {c : Config} {rules : List Rule} :
    c.check rules = .ok () ↔ ∀ r ∈ rules, r.Holds c := by
  unfold check
  cases h : rules.find? fun r => ¬ r.Holds c with
  | none => simpa using h
  | some r =>
    have hr := List.find?_some h
    have hmem := List.mem_of_find?_eq_some h
    simp only [reduceCtorEq, false_iff, not_forall]
    exact ⟨r, hmem, by simpa using hr⟩

private theorem check_eq_error_iff {c : Config} {rules : List Rule} {e : Error} :
    c.check rules = .error e ↔ ∃ fore r rest, rules = fore ++ r :: rest ∧
      (∀ q ∈ fore, q.Holds c) ∧ ¬ r.Holds c ∧ e = .config r.complaint := by
  have hfirst (r : Rule) : (rules.find? fun r => ¬ r.Holds c) = some r ↔
      ∃ fore rest, rules = fore ++ r :: rest ∧ (∀ q ∈ fore, q.Holds c) ∧ ¬ r.Holds c := by
    rw [List.find?_eq_some_iff_append]
    simp only [decide_not, Bool.not_eq_true', decide_eq_false_iff_not, Bool.not_not,
      decide_eq_true_eq]
    grind
  unfold check
  constructor
  · intro h
    cases hfind : rules.find? fun r => ¬ r.Holds c with
    | none =>
      rw [hfind] at h
      cases h
    | some r =>
      obtain ⟨fore, rest, hrules, hfore, hr⟩ := (hfirst r).1 hfind
      rw [hfind] at h
      exact ⟨fore, r, rest, hrules, hfore, hr, (Except.error.inj h).symm⟩
  · rintro ⟨fore, r, rest, hrules, hfore, hr, rfl⟩
    rw [(hfirst r).2 ⟨fore, rest, hrules, hfore, hr⟩]

private theorem if_throw_bind {p : Prop} [Decidable p] {e : Error} {x : Except Error Unit} :
    (do if p then throw e
        x) = if p then .error e else x := by
  by_cases hp : p
  · rw [if_pos hp, if_pos hp]
    rfl
  · rw [if_neg hp, if_neg hp]

private theorem unless_throw_bind {p : Prop} [Decidable p] {e : Error} {x : Except Error Unit} :
    (do unless p do throw e
        x) = if p then x else .error e := by
  by_cases hp : p
  · rw [if_pos hp, if_pos hp]
  · rw [if_neg hp, if_neg hp]
    rfl

private theorem append_bounds (s : String) : s ++ " outside " ++ toString minSeverity ++ "..=" ++
    toString maxSeverity = s ++ " outside 1..=1000" := by
  have hbounds : " outside " ++ (toString minSeverity ++ ("..=" ++ toString maxSeverity)) =
      " outside 1..=1000" := by decide
  simp only [String.append_assoc, hbounds]

/-- The rules for one alarm are gone through in order. -/
theorem validateAlarm_eq_check (c : Config) (earlier : List AlarmConfig) (a : AlarmConfig) :
    validateAlarm (earlier.map AlarmConfig.name).reverse a =
      c.check [.alarmNamed a, .alarmPlaced a, .alarmGraded a, .alarmDistinct earlier a] := by
  have hnames : a.name ∈ (earlier.map AlarmConfig.name).reverse ↔
      ¬ ∀ b ∈ earlier, b.name ≠ a.name := by
    simp
  have hlast (p : Prop) [Decidable p] (e : Error) :
      (if p then throw e else pure PUnit.unit : Except Error Unit) =
        if ¬ p then .ok () else .error e := by
    by_cases hp : p
    · simp only [hp, if_true, not_true, if_false]
      rfl
    · simp only [hp, if_false, not_false_eq_true, if_true]
      rfl
  simp only [validateAlarm, if_throw_bind, unless_throw_bind, hlast, append_bounds, check_cons,
    Rule.Holds, ite_not, Text.isBlankText_iff, hnames]
  rfl

/-- The rules for alarms are gone through in order. -/
theorem validateAlarms_eq_check (c : Config) (earlier as : List AlarmConfig) :
    validateAlarms (earlier.map AlarmConfig.name).reverse as = c.check (alarmRules earlier as) := by
  induction as generalizing earlier with
  | nil => rfl
  | cons a as ih =>
    rw [alarmRules, check_append, ← validateAlarm_eq_check, ← ih]
    simp [validateAlarms]

/-- The rules for users are gone through in order. They are all broken in the same words. -/
theorem check_users (c : Config) (users : List UserLogin) :
    c.check (users.map .userNamed) =
      if users.any fun u => u.userName.isEmpty then .error (.config "user with empty user_name")
      else .ok () := by
  induction users with
  | nil => rfl
  | cons u users ih =>
    have hu : u.userName.isEmpty = true ↔ ¬ Rule.Holds c (.userNamed u) := by
      simp [Rule.Holds, String.isEmpty_iff]
    rw [List.map_cons, check_cons, ih, List.any_cons]
    by_cases hholds : Rule.Holds c (.userNamed u)
    · rw [if_pos hholds, Bool.eq_false_iff.2 fun h => hu.1 h hholds, Bool.false_or]
    · rw [if_neg hholds, hu.2 hholds, Bool.true_or, if_pos rfl]
      rfl

/-- All rules are gone through in order. -/
theorem validate_eq_check (c : Config) : c.validate = c.check c.rules := by
  have hserver : Text.isBlankText c.server.applicationName = true ↔
      ¬ Rule.Holds c .serverNamed := by
    simp [Rule.Holds, Text.isBlankText_iff]
  have hlogin : (!c.access.allowAnonymous && c.access.users.isEmpty) = true ↔
      ¬ Rule.Holds c .loginOffered := by
    simp [Rule.Holds]
  rw [rules, check_append, check_append, check_users, ← validateAlarms_eq_check]
  simp only [validate, if_throw_bind, check_cons, hserver, hlogin, ite_not]
  by_cases hs : Rule.Holds c .serverNamed
  · by_cases hl : Rule.Holds c .loginOffered
    · simp only [if_pos hs, if_pos hl]
      split <;> rfl
    · simp only [if_pos hs, if_neg hl]
      rfl
  · simp only [if_neg hs]
    rfl

/-- Validation succeeds for the configurations that keep all rules. -/
theorem valid_iff {c : Config} : c.validate = .ok () ↔ c.Valid := by
  rw [validate_eq_check, check_eq_ok_iff, valid_iff_holds]

/-- A validation succeeds for the configurations that keep all rules, and otherwise reports the
first rule that is broken: that of the server's name, that some login is offered, that of each
user's name, and then for each alarm that of its name, of its source, of its severity, and that no
earlier alarm has its name. -/
theorem validates (c : Config) :
    (c.validate = .ok () ↔ c.Valid) ∧
      ∀ e, c.validate = .error e ↔ ∃ fore r rest, c.rules = fore ++ r :: rest ∧
        (∀ q ∈ fore, q.Holds c) ∧ ¬ r.Holds c ∧ e = .config r.complaint := by
  refine ⟨valid_iff, fun e => ?_⟩
  rw [validate_eq_check]
  exact check_eq_error_iff

end Config

/-! ### Logins -/

namespace AccessConfig

/-- The password of a user; of several entries the last one counts. -/
def password? (c : AccessConfig) (name : String) : Option String :=
  (c.users.filter fun u => u.userName = name).getLast?.map UserLogin.password

/-- Does the configuration let the owner of a token in? -/
def Admits (c : AccessConfig) : IdentityToken → Prop
  | .anonymous => c.allowAnonymous = true
  | .userName name password => ∃ fore rest, c.users = fore ++ ⟨name, password⟩ :: rest ∧
    ∀ u ∈ rest, u.userName ≠ name
  | .x509 _ => c.allowTokens = true
  | .issued .. => c.allowTokens = true

/-- The password is that of the entry after which none has the name. -/
theorem password?_eq_some_iff {c : AccessConfig} {name password : String} :
    c.password? name = some password ↔ c.Admits (.userName name password) := by
  have hlast (u : UserLogin) : (c.users.filter fun u => u.userName = name).getLast? = some u ↔
      u.userName = name ∧ ∃ fore rest, c.users = fore ++ u :: rest ∧
        ∀ u ∈ rest, u.userName ≠ name := by
    rw [List.getLast?_filter, List.find?_eq_some_iff_append, decide_eq_true_iff]
    refine and_congr_right fun _ => ⟨?_, ?_⟩
    · rintro ⟨rest, fore, husers, hrest⟩
      refine ⟨fore.reverse, rest.reverse, ?_, fun u hu => ?_⟩
      · simpa using congrArg List.reverse husers
      · simpa using hrest u (by simpa using hu)
    · rintro ⟨fore, rest, husers, hrest⟩
      refine ⟨rest.reverse, fore.reverse, by simp [husers], fun u hu => ?_⟩
      simpa using hrest u (by simpa using hu)
  rw [password?, Option.map_eq_some_iff]
  constructor
  · rintro ⟨u, hu, rfl⟩
    obtain ⟨rfl, hu⟩ := (hlast u).1 hu
    exact hu
  · intro h
    exact ⟨⟨name, password⟩, (hlast _).2 ⟨rfl, h⟩, rfl⟩

end AccessConfig

namespace LoginPolicy

private theorem logins_foldl (users : List UserLogin) (p : LoginPolicy) (name : String) :
    (users.foldl (fun p u => p.withLogin u.userName u.password) p).logins.find? name =
      ((users.filter fun u => u.userName = name).getLast?.map UserLogin.password).or
        (p.logins.find? name) := by
  induction users generalizing p with
  | nil => rfl
  | cons u users ih =>
    rw [List.foldl_cons, ih, LoginPolicy.withLogin, Table.find?_insert, List.filter_cons]
    by_cases hu : u.userName = name
    · rw [if_pos hu.symm, if_pos (decide_eq_true hu), List.getLast?_cons]
      cases (users.filter _).getLast? <;> rfl
    · rw [if_neg (Ne.symm hu), if_neg (by simp [hu])]

/-- The table of logins holds the passwords of the configuration. -/
theorem logins_ofConfig (c : AccessConfig) (name : String) :
    (ofConfig c).logins.find? name = c.password? name := by
  show (c.users.foldl _ (create c.allowAnonymous)).logins.find? name = _
  rw [logins_foldl, create, Table.find?_empty, Option.or_none]
  rfl

/-- Logins do not change whether anonymous sessions are accepted. -/
theorem allowAnonymous_ofConfig (c : AccessConfig) :
    (ofConfig c).allowAnonymous = c.allowAnonymous := by
  have hfold (users : List UserLogin) (p : LoginPolicy) :
      (users.foldl (fun p u => p.withLogin u.userName u.password) p).allowAnonymous =
        p.allowAnonymous := by
    induction users generalizing p with
    | nil => rfl
    | cons u users ih => rw [List.foldl_cons, ih, withLogin]
  exact hfold c.users (create c.allowAnonymous)

/-- The table of logins says yes to the tokens that the configuration admits, and no to all others.
-/
theorem decide_ofConfig (c : AccessConfig) (token : IdentityToken) :
    (c.Admits token ∧ (ofConfig c).decide token = .good) ∨
      ¬ c.Admits token ∧ ((ofConfig c).decide token).isBad = true := by
  have hif (p : Prop) [Decidable p] {e : StatusCode} (he : e.isBad = true) :
      (p ∧ (if p then StatusCode.good else e) = .good) ∨
        ¬ p ∧ (if p then StatusCode.good else e).isBad = true := by
    by_cases hp : p
    · exact .inl ⟨hp, if_pos hp⟩
    · exact .inr ⟨hp, by rwa [if_neg hp]⟩
  cases token with
  | anonymous =>
    rw [decide, allowAnonymous_ofConfig]
    exact hif (c.allowAnonymous = true) rfl
  | userName name password =>
    rw [decide, logins_ofConfig, ← AccessConfig.password?_eq_some_iff]
    exact hif (c.password? name = some password) rfl
  | x509 certificate => exact hif (c.allowTokens = true) rfl
  | issued data algorithm => exact hif (c.allowTokens = true) rfl

end LoginPolicy

/-- A configuration that keeps the rules admits somebody: anybody, or its last user. -/
theorem Config.Valid.admits {c : Config} (h : c.Valid) : ∃ token, c.access.Admits token := by
  rcases h.login with hanonymous | husers
  · exact ⟨.anonymous, hanonymous⟩
  · let last := c.access.users.getLast husers
    refine ⟨.userName last.userName last.password, c.access.users.dropLast, [], ?_, ?_⟩
    · exact (List.dropLast_concat_getLast husers).symm
    · intro u hu
      cases hu

/-- What comes of an activation before the logins of a configuration: it ends at once, with the
status `good` if the configuration admits the token and with a bad one otherwise. -/
structure AccessConfig.Decides {β : Type} (c : AccessConfig) (token : IdentityToken)
    (activation : Interaction (runtimeCalls β) (Tables β) StatusCode) : Prop where
  /-- The token is let in. -/
  accepts : (∃ u, activation = .done .good u) ↔ c.Admits token
  /-- The token is turned away. -/
  rejects : (∃ status u, activation = .done status u ∧ status.isBad = true) ↔ ¬ c.Admits token

/-- The login policy of a configuration decides about every activation, in every state, as the
configuration says: anonymous sessions are let in if they are allowed, certificates and issued
tokens if such are allowed, and a user with the password of the last entry that has his name. Access
control before that policy does not change that. And whoever sets up a server with a configuration
that keeps the rules can be sure that there is a token that is let in. -/
theorem AccessConfig.decides {β : Type} :
    (∀ (c : AccessConfig) (session : SessionId) (token : IdentityToken) (t : Tables β),
      c.Decides token ((AccessPolicy.logins (.ofConfig c)).activate session token t) ∧
        c.Decides token ((⟨.logins (.ofConfig c)⟩ : AccessControl).activate session token t)) ∧
    ∀ c : Config, c.validate = .ok () → ∃ token, c.access.Admits token ∧
      ∀ (session : SessionId) (t : Tables β), ∃ u,
        (AccessPolicy.logins (.ofConfig c.access)).activate session token t = .done .good u := by
  have hdecides (c : AccessConfig) (token : IdentityToken)
      {activation : Interaction (runtimeCalls β) (Tables β) StatusCode}
      (hrun : ∃ u, activation = .done ((LoginPolicy.ofConfig c).decide token) u) :
      c.Decides token activation := by
    obtain ⟨u, rfl⟩ := hrun
    rcases LoginPolicy.decide_ofConfig c token with ⟨hadmits, hgood⟩ | ⟨hadmits, hbad⟩
    · refine ⟨iff_of_true ⟨u, by rw [hgood]⟩ hadmits, iff_of_false ?_ (not_not_intro hadmits)⟩
      rintro ⟨status, w, hdone, hstatus⟩
      obtain ⟨rfl, -⟩ := Interaction.done.inj hdone
      rw [hgood] at hstatus
      cases hstatus
    · refine ⟨iff_of_false ?_ hadmits, iff_of_true ⟨_, u, rfl, hbad⟩ hadmits⟩
      rintro ⟨w, hdone⟩
      obtain ⟨hstatus, -⟩ := Interaction.done.inj hdone
      rw [hstatus] at hbad
      cases hbad
  have hpolicy (c : AccessConfig) (session : SessionId) (token : IdentityToken) (t : Tables β) :
      c.Decides token ((AccessPolicy.logins (.ofConfig c)).activate session token t) := by
    obtain ⟨u, hrun, -⟩ := (LoginPolicy.ofConfig c).policy_run session token t
    exact hdecides c token ⟨u, hrun⟩
  refine ⟨fun c session token t => ⟨hpolicy c session token t, ?_⟩, fun c hc => ?_⟩
  · obtain ⟨u, hrun, -⟩ := (LoginPolicy.ofConfig c).activate_run session token t
    exact hdecides c token ⟨u, hrun⟩
  · obtain ⟨token, htoken⟩ := (Config.valid_iff.1 hc).admits
    exact ⟨token, htoken, fun session t => (hpolicy c.access session token t).accepts.2 htoken⟩

/-- A configuration with two entries for its one user. -/
def operatorOnly : Config :=
  { Config.default with access := ⟨false, false, [⟨"operator", "old"⟩, ⟨"operator", "new"⟩]⟩ }

/-- The operator has two entries. The password of the later one lets him in, that of the earlier one
does not, and nobody is let in without a password. -/
theorem AccessConfig.decides_operatorOnly :
    operatorOnly.validate = .ok () ∧ (∃ token, operatorOnly.access.Admits token) ∧
      (∃ u, (AccessPolicy.logins (.ofConfig operatorOnly.access)).activate visitor
        (.userName "operator" "new") (newTables : Tables Unit) = .done .good u) ∧
      ¬ operatorOnly.access.Admits (.userName "operator" "old") ∧
      ¬ operatorOnly.access.Admits .anonymous := by
  have hvalid : operatorOnly.validate = .ok () := rfl
  obtain ⟨hall, hsome⟩ := decides (β := Unit)
  obtain ⟨token, htoken, -⟩ := hsome operatorOnly hvalid
  have hnew := (hall operatorOnly.access visitor (.userName "operator" "new") newTables).1
  refine ⟨hvalid, ⟨token, htoken⟩, hnew.accepts.2 (password?_eq_some_iff.1 rfl), ?_, ?_⟩
  · rw [← password?_eq_some_iff]
    decide
  · exact Bool.false_ne_true

end AlarmServer
