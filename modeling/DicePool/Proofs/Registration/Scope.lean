import DicePool.Proofs.Registration.Requests

/-!
# Proofs/Registration/Scope — the guild that is named is the one that is changed

Arguments may name a guild anywhere, and more than once; once one is named, one is asked for
(`guild_ne_none_of_parse`). Whatever happens to a run, its requests go to the commands of its scope, or
to an id behind them. Main statement `sent_to_guild`: what names a guild leaves alone what is registered
everywhere, as long as the guild is not named by the empty text (`sent_everywhere_of_empty`), nor by steps
that lead there (`sent_everywhere_of_dots`).
-/

namespace DicePool.Registration

open RunM Url

/-! ## Arguments that name a guild -/

/-- Some word names a guild. -/
def NamesGuild (args : List String) : Prop :=
  ∃ w ∈ args, ∃ v, classify w = .ok (.switch .guild v)

/-- A word means in a list what it means alone, unless a separator stands before it. -/
theorem mem_of_classifyAll {args : List String} {words : List (String × Word)}
    (h : classifyAll args = .ok words) {w : String} {kind : Word} (hw : w ∈ args)
    (hkind : classify w = .ok kind) : (w, kind) ∈ words ∨ ("--", .separator) ∈ words := by
  fun_induction classifyAll args generalizing words with
  | case1 => cases hw
  | case2 rest =>
    obtain rfl := Except.ok.inj h
    exact .inr List.mem_cons_self
  | case3 word rest hnot ih =>
    cases hword : classify word with
    | error e =>
      rw [hword] at h
      cases h
    | ok k =>
      cases hrest : classifyAll rest with
      | error e =>
        rw [hword, hrest] at h
        cases h
      | ok words' =>
        rw [hword, hrest] at h
        obtain rfl : (word, k) :: words' = words := Except.ok.inj h
        rcases List.mem_cons.1 hw with rfl | hmem
        · obtain rfl := Except.ok.inj (hword.symm.trans hkind)
          exact .inl List.mem_cons_self
        · exact (ih hrest hmem).imp (List.mem_cons_of_mem _) (List.mem_cons_of_mem _)

/-- A word that names a guild. -/
def Word.NamesGuild (kind : Word) : Prop :=
  ∃ v, kind = .switch .guild v

theorem of_withAction {asked asked' : Asked} {a : Action} (h : asked.withAction a = .ok asked') :
    asked'.guild = asked.guild ∧ asked'.strays = asked.strays := by
  unfold Asked.withAction at h
  split at h
  next => split at h <;> cases h; exact ⟨rfl, rfl⟩
  next => cases h; exact ⟨rfl, rfl⟩

/-- **What was asked for stays asked for**: a guild, once one was named, and a stray word, which a
separator is. -/
theorem of_takeAll {asked asked' : Asked} {words : List (String × Word)}
    (h : asked.takeAll words = .ok asked') :
    ((asked.guild ≠ .none ∨ ∃ w ∈ words, w.2.NamesGuild) → asked'.guild ≠ .none)
      ∧ ((asked.strays ≠ [] ∨ ∃ w ∈ words, w.2 = .separator) → asked'.strays ≠ []) := by
  fun_induction Asked.takeAll asked words with
  | case1 asked =>
    obtain rfl := Except.ok.inj h
    simp
  | case2 asked word v rest ih => simpa [Word.NamesGuild] using ih h
  | case3 asked word v rest ih => simpa [Word.NamesGuild] using ih h
  | case4 asked word rest hvalue ih => simpa [Word.NamesGuild] using ih h
  | case5 | case6 | case7 => cases h
  | case8 asked word a rest ih =>
    cases haction : asked.withAction a with
    | error e =>
      rw [haction] at h
      cases h
    | ok next =>
      rw [haction] at h
      obtain ⟨hguild, hstrays⟩ := of_withAction haction
      simpa [Word.NamesGuild, hguild, hstrays] using ih next h
  | case9 asked word rest ih => simpa [Word.NamesGuild] using ih h
  | case10 asked word kind rest hid _ hguild _ _ hswitch _ _ ih =>
    have hnames : ¬kind.NamesGuild := by
      rintro ⟨_ | v, rfl⟩
      · exact hguild rfl
      · exact hid v rfl
    exact ⟨by simpa [hnames] using (ih h).1, fun _ => (ih h).2 (.inl (List.cons_ne_nil word _))⟩

/-- **Whoever names a guild asks for one**, wherever among the arguments. -/
theorem guild_ne_none_of_parse {args : List String} {asked : Arguments}
    (h : Arguments.parse args = .ok asked) (hguild : NamesGuild args) : asked.guild ≠ .none := by
  obtain ⟨w, hw, v, hv⟩ := hguild
  unfold Arguments.parse at h
  cases hwords : classifyAll args with
  | error e =>
    rw [hwords] at h
    cases h
  | ok words =>
    rw [hwords] at h
    dsimp only at h
    cases htaken : ({} : Asked).takeAll words with
    | error e =>
      rw [htaken] at h
      cases h
    | ok taken =>
      rw [htaken] at h
      obtain ⟨hkeeps, hstrays⟩ := of_takeAll htaken
      obtain ⟨action, guild, strays⟩ := taken
      cases action with
      | none => cases h
      | some action =>
        cases strays with
        | cons stray strays => cases h
        | nil =>
          obtain rfl : ⟨action, guild⟩ = asked := Except.ok.inj h
          rcases mem_of_classifyAll hwords hw hv with hmem | hmem
          · exact hkeeps (.inr ⟨_, hmem, v, rfl⟩)
          · exact absurd rfl (hstrays (.inr ⟨_, hmem, rfl⟩))

/-- Where a guild is asked for, a run is about that guild, unless the empty text names it. -/
theorem of_scopeOf {vars : Named String} {guild : GuildChoice} {scope : Scope}
    (h : scopeOf vars guild = .ok scope) (hguild : guild ≠ .none) :
    (guild = .id "" ∧ scope = .everywhere) ∨ guild ≠ .id "" ∧ ∃ id, id ≠ "" ∧ scope = .guild id := by
  cases guild with
  | none => exact absurd rfl hguild
  | id s =>
    obtain rfl := Except.ok.inj h
    by_cases hs : s = ""
    · exact .inl ⟨by rw [hs], if_pos hs⟩
    · exact .inr ⟨by simp [hs], s, hs, if_neg hs⟩
  | fromEnvironment =>
    rw [scopeOf] at h
    split at h
    next id hid =>
      obtain rfl := Except.ok.inj h
      have hne := (Option.filter_eq_some_iff.1 hid).2
      exact .inr ⟨by simp, id, by simpa using hne, rfl⟩
    next => cases h

theorem scopeOf_of_setup {around : Environment} {guild : GuildChoice} {account : Account}
    {scope : Scope} (h : setup around guild = .ok (account, scope)) :
    scopeOf (varsOf around) guild = .ok scope := by
  unfold setup at h
  dsimp only at h
  cases haccount : accountOf (varsOf around) with
  | error e =>
    rw [haccount] at h
    cases h
  | ok a =>
    cases hscope : scopeOf (varsOf around) guild with
    | error e =>
      rw [haccount, hscope] at h
      cases h
    | ok s =>
      rw [haccount, hscope] at h
      exact congrArg Except.ok (congrArg Prod.snd (Except.ok.inj h))

/-! ## Requests behind an address -/

/-- A request goes to what a text spells. -/
def LeadsTo (text : String) (r : WebRequest) : Prop :=
  ∃ u, Url.parse text = .ok u ∧ r.url = u.render

/-- A request goes to an address, or to an id behind it. -/
def LeadsBehind (url : String) (r : WebRequest) : Prop :=
  LeadsTo url r ∨ ∃ id, LeadsTo (url ++ "/" ++ id) r

theorem leadsTo_inFull {r : WebRequest} (hr : IsSendable r) : LeadsTo r.url r.inFull := by
  obtain ⟨u, hu⟩ := hr.address
  exact ⟨u, hu, by rw [WebRequest.inFull, hu]⟩

/-- **Whatever happens, a run sends requests to the commands of its scope, and to no others.** -/
theorem sends_perform (account : Account) (scope : Scope) (commands : List Discord.CommandSpec)
    (action : Action) : Sends (LeadsBehind (commandUrl account.applicationId scope))
      (perform account scope commands action) := by
  have hurl := isServed_commandUrl account.applicationId scope
  unfold perform
  dsimp only
  generalize commandUrl account.applicationId scope = url at *
  have hfetch : Sends (LeadsBehind url) (fetch account url) :=
    .fetch hurl fun hr => .inl (leadsTo_inFull (r := listingRequest account url) hr)
  have hshow (registered : Json) : Sends (LeadsBehind url) (showStatus commands registered scope) :=
    .showStatus commands registered scope
  refine .bind hfetch fun registered => ?_
  cases action with
  | status => exact hshow registered
  | register =>
    have hregister (c : Discord.CommandSpec) : Sends (LeadsBehind url) (register account url c) :=
      .register hurl c fun hr => .inl (leadsTo_inFull (r := registration account url c) hr)
    exact .bind (.forM hregister commands) fun _ => .bind hfetch hshow
  | unregister =>
    have hunregister (item : Json) :
        Sends (LeadsBehind url) (unregister account url commands item) :=
      .unregister hurl commands
        (fun id hr => .inr ⟨id, leadsTo_inFull (r := withdrawal account url id) hr⟩) item
    exact .bind (.bind (.listed _) fun items => .forM hunregister items) fun _ => .bind hfetch hshow

/-- **Whatever a run sends, it was asked and set up to**, and it is sent to the commands of its scope. -/
theorem exists_sent_run (commands : List Discord.CommandSpec) (around : Environment)
    (network : Network) (args : List String) :
    ∃ l, (run commands around network args).network.sent.toList = network.sent.toList ++ l
      ∧ ∀ r ∈ l, ∃ asked account scope, Arguments.parse args = .ok asked
        ∧ setup around asked.guild = .ok (account, scope)
        ∧ LeadsBehind (commandUrl account.applicationId scope) r := by
  have hquiet {o : Outcome} (ho : o.network = network) :
      ∃ l, o.network.sent.toList = network.sent.toList ++ l
        ∧ ∀ r ∈ l, ∃ asked account scope, Arguments.parse args = .ok asked
          ∧ setup around asked.guild = .ok (account, scope)
          ∧ LeadsBehind (commandUrl account.applicationId scope) r :=
    ⟨[], by rw [ho, List.append_nil], List.forall_mem_nil _⟩
  unfold run
  dsimp only
  split
  next => exact hquiet rfl
  next => exact hquiet rfl
  next asked hargs =>
    split
    next => exact hquiet rfl
    next account scope hsetup =>
      obtain ⟨l, hl, hall⟩ := sends_perform account scope commands asked.action { network }
      exact ⟨l, hl, fun r hr => ⟨asked, account, scope, hargs, hsetup, hall r hr⟩⟩

/-! ## Global addresses -/

theorem url_of_leadsTo {text : String} {tail : List Char} (htail : EndsPlace tail)
    (htext : text.toList = lead "https".toList "discord.com".toList ++ tail) (hundotted : Undotted text)
    {r : WebRequest} (hr : LeadsTo text r) :
    r.url.toList = service.render.toList ++ spell .path tail := by
  obtain ⟨u, hu, hurl⟩ := hr
  obtain rfl : text = String.ofList (lead "https".toList "discord.com".toList ++ tail) := by
    rw [← htext, String.ofList_toList]
  rw [hurl, isHome_service.render_of_parse htail hu,
    sentTail_of_undotted isHome_service.place htail hundotted, String.toList_append,
    String.toList_ofList]

/-- What two spellings have in common in front is spelled in common. -/
theorem of_spell_append_eq {p : Part} {front s t : List Char}
    (h : spell p (front ++ s) = spell p (front ++ t)) :
    spell (front.foldl Part.after p) s = spell (front.foldl Part.after p) t := by
  rw [spell_append, spell_append] at h
  exact List.append_cancel_left h

/-- A request goes to what is written behind an address without steps `.` and `..`. -/
def LeadsPlainly (url : String) (r : WebRequest) : Prop :=
  ∃ rest, Undotted (url ++ rest) ∧ LeadsTo (url ++ rest) r

/-- **What is plainly written behind the address of a guild is not sent to what is plainly written behind
the global one.** -/
theorem not_leadsPlainly_everywhere {applicationId id : String} {r : WebRequest}
    (h : LeadsPlainly (commandUrl applicationId (.guild id)) r) :
    ¬LeadsPlainly (commandUrl applicationId .everywhere) r := by
  rintro ⟨rest', hundotted', hr'⟩
  obtain ⟨rest, hundotted, hr⟩ := h
  have hguild : (commandUrl applicationId (.guild id) ++ rest).toList
      = lead "https".toList "discord.com".toList ++ (applicationPath applicationId
        ++ ("/g".toList ++ ("uilds/".toList ++ id.toList ++ "/commands".toList ++ rest.toList))) := by
    rw [String.toList_append, toList_commandUrl, List.append_assoc, List.append_assoc]
    rfl
  have hglobal : (commandUrl applicationId .everywhere ++ rest').toList
      = lead "https".toList "discord.com".toList ++ (applicationPath applicationId
        ++ ("/c".toList ++ ("ommands".toList ++ rest'.toList))) := by
    rw [String.toList_append, toList_commandUrl, List.append_assoc, List.append_assoc]
    rfl
  have hurl := url_of_leadsTo (endsPlace_applicationPath applicationId _) hguild hundotted hr
  rw [url_of_leadsTo (endsPlace_applicationPath applicationId _) hglobal hundotted' hr'] at hurl
  -- The two differ in the character behind the slash that follows the application.
  have hspelled := of_spell_append_eq (List.append_cancel_left hurl)
  rw [spell_append _ "/g".toList, spell_append _ "/c".toList,
    spell_eq_self (s := "/g".toList) (List.all_iff_forall_prop.1 (by decide)),
    spell_eq_self (s := "/c".toList) (List.all_iff_forall_prop.1 (by decide))] at hspelled
  cases hspelled

/-! ## Runs that name a guild -/

/-- **A run that names a guild is set up for a guild, unless it names it by the empty text**, which is
taken for none, and each request goes to what the address of the scope spells, or to an id behind it. What
is so spelled for a guild, without steps `.` and `..`, is nothing that is so spelled behind the global
address. -/
theorem sent_to_guild (commands : List Discord.CommandSpec) (around : Environment) (network : Network)
    {args : List String} (hguild : NamesGuild args) :
    ∃ l, (run commands around network args).network.sent.toList = network.sent.toList ++ l
      ∧ ∀ r ∈ l, ∃ asked account scope, Arguments.parse args = .ok asked
        ∧ setup around asked.guild = .ok (account, scope)
        ∧ LeadsBehind (commandUrl account.applicationId scope) r
        ∧ (asked.guild = .id "" ∧ scope = .everywhere
          ∨ asked.guild ≠ .id "" ∧ ∃ id, id ≠ "" ∧ scope = .guild id
            ∧ (LeadsPlainly (commandUrl account.applicationId scope) r →
              ¬LeadsPlainly (commandUrl account.applicationId .everywhere) r)) := by
  obtain ⟨l, hl, hall⟩ := exists_sent_run commands around network args
  refine ⟨l, hl, fun r hr => ?_⟩
  obtain ⟨asked, account, scope, hargs, hsetup, hleads⟩ := hall r hr
  refine ⟨asked, account, scope, hargs, hsetup, hleads, ?_⟩
  rcases of_scopeOf (scopeOf_of_setup hsetup) (guild_ne_none_of_parse hargs hguild) with
    hempty | ⟨hne, id, hid, rfl⟩
  · exact .inl hempty
  · exact .inr ⟨hne, id, hid, rfl, not_leadsPlainly_everywhere⟩

/-- The guild that is named is asked. -/
theorem sent_to_guild_five :
    let sent := (run [] bareAround {} ["--status", "--guild", "5"]).network.sent.toList
    sent.map (·.url) = ["https://discord.com/api/v10/applications/1/guilds/5/commands"]
      ∧ ∀ r ∈ sent, LeadsBehind (commandUrl "1" (.guild "5")) r := by
  refine ⟨by decide +kernel, fun r hr => ?_⟩
  have hguild : NamesGuild ["--status", "--guild", "5"] :=
    ⟨"--guild", by simp, none, by decide +kernel⟩
  obtain ⟨l, hl, hall⟩ := sent_to_guild [] bareAround {} hguild
  obtain ⟨asked, account, scope, hargs, hsetup, hleads, -⟩ := hall r (by rwa [hl] at hr)
  have hasked : Arguments.parse ["--status", "--guild", "5"] = .ok ⟨.status, .id "5"⟩ := by
    decide +kernel
  have hset : setup bareAround (.id "5") = .ok (⟨"1", "t"⟩, .guild "5") := by decide +kernel
  obtain rfl := Except.ok.inj (hargs.symm.trans hasked)
  obtain ⟨rfl, rfl⟩ := Prod.mk.inj (Except.ok.inj (hsetup.symm.trans hset))
  exact hleads

/-- **The empty text names a guild and is taken for none**: a command that is registered everywhere is
withdrawn. -/
theorem sent_everywhere_of_empty :
    NamesGuild ["--unregister", "--guild", ""]
      ∧ (run (Discord.payload (.ofList [bareCommand])) bareAround
          { answers := [.response ⟨200, "[\x7b\"name\":\"roll\",\"id\":\"7\"\x7d]"⟩] }
          ["--unregister", "--guild", ""]).network.sent.toList.map (fun r => (r.method, r.url))
        = [("GET", "https://discord.com/api/v10/applications/1/commands"),
          ("DELETE", "https://discord.com/api/v10/applications/1/commands/7"),
          ("GET", "https://discord.com/api/v10/applications/1/commands")] :=
  ⟨⟨"--guild", by simp, none, by decide +kernel⟩, by decide +kernel⟩

/-- **Two dots name a guild and lead to what is global**, as a step of the address: a command that is
registered everywhere is withdrawn. -/
theorem sent_everywhere_of_dots :
    NamesGuild ["--unregister", "--guild", ".."]
      ∧ setup bareAround (.id "..") = .ok (⟨"1", "t"⟩, .guild "..")
      ∧ (run (Discord.payload (.ofList [bareCommand])) bareAround
          { answers := [.response ⟨200, "[\x7b\"name\":\"roll\",\"id\":\"7\"\x7d]"⟩] }
          ["--unregister", "--guild", ".."]).network.sent.toList.map (fun r => (r.method, r.url))
        = [("GET", "https://discord.com/api/v10/applications/1/commands"),
          ("DELETE", "https://discord.com/api/v10/applications/1/commands/7"),
          ("GET", "https://discord.com/api/v10/applications/1/commands")] :=
  ⟨⟨"--guild", by simp, none, by decide +kernel⟩, by decide +kernel, by decide +kernel⟩

end DicePool.Registration
