import HexMonitor.Proofs.SiteCommands

namespace HexMonitor

theorem Rejection.message_programTooLarge (n : Nat) :
    (programTooLarge n memorySize).message =
      "Program of " ++ toString n ++ " bytes exceeds machine capacity of 256 bytes" := by
  have hm : toString memorySize = "256" := by decide +kernel
  have ht : " bytes exceeds machine capacity of " ++ ("256" ++ " bytes") =
      " bytes exceeds machine capacity of 256 bytes" := by decide +kernel
  show "Program of " ++ toString n ++ " bytes exceeds machine capacity of " ++ toString memorySize
    ++ " bytes" = _
  rw [hm, ← ht, String.append_assoc, String.append_assoc, String.append_assoc]

namespace Http

inductive UploadForm
  | binary
  | hexadecimal
  deriving DecidableEq, Repr

namespace UploadForm

def path : UploadForm → String
  | binary => "/load/bin"
  | hexadecimal => "/load/hex"

def command : UploadForm → Bytes → Command
  | binary => .loadBinary
  | hexadecimal => .loadHex

def program : UploadForm → Bytes → Except Hex.DecodeError Bytes
  | binary, body => .ok body
  | hexadecimal, body => Hex.decode body

end UploadForm

/-- The status and the body that an upload deserves by its program: that there is none, that memory
cannot hold it, or the dump of what came of it. -/
def verdict (program : Except Hex.DecodeError Bytes) (dump : Bytes) : Nat × Bytes :=
  match program with
  | .error e => (400, Bytes.ofText ("Invalid hex encoding: " ++ e.message))
  | .ok p =>
    if 256 < p.length then
      (413, Bytes.ofText
        ("Program of " ++ toString p.length ++ " bytes exceeds machine capacity of 256 bytes"))
    else (200, dump)

theorem verdict_tooLong {p : Bytes} (h : memorySize < p.length) (dump : Bytes) :
    verdict (.ok p) dump =
      (413, Bytes.ofText (Rejection.programTooLarge p.length memorySize).message) := by
  rw [Rejection.message_programTooLarge]
  exact if_pos h

theorem verdict_fits {p : Bytes} (h : p.length ≤ memorySize) (dump : Bytes) :
    verdict (.ok p) dump = (200, dump) :=
  if_neg (Nat.not_lt.2 h)

/-- `Tells response program dump`: a response in plain text gives an upload what it deserves. -/
def Tells (response : Response) (program : Except Hex.DecodeError Bytes) (dump : Bytes) : Prop :=
  (response.status.number, response.body) = verdict program dump ∧
    response.header? "content-type" = some "text/plain"

namespace UploadForm

theorem prepare_of_malformed (form : UploadForm) (m : Monitor) {body : Bytes} {e : Hex.DecodeError}
    (h : form.program body = .error e) :
    m.prepare (form.command body) = .error (.ofDecodeError e) := by
  cases form with
  | binary => cases h
  | hexadecimal =>
    have hd : Hex.decode body = .error e := h
    simp only [command, Monitor.prepare, Session.loadHex_of_decode_error hd]
    rfl

theorem prepare_of_tooLong (form : UploadForm) (m : Monitor) {body p : Bytes}
    (h : form.program body = .ok p) (hl : memorySize < p.length) :
    m.prepare (form.command body) = .error (.programTooLarge p.length memorySize) := by
  cases form with
  | binary =>
    cases h
    simp only [command, Monitor.prepare, Session.load_tooLarge hl]
    rfl
  | hexadecimal =>
    have hd : Hex.decode body = .ok p := h
    simp only [command, Monitor.prepare, Session.loadHex_of_decode hd, Session.load_tooLarge hl]
    rfl

theorem program?_command {form : UploadForm} {body p : Bytes} (h : form.program body = .ok p)
    (hl : p.length ≤ memorySize) : (form.command body).program? = some p := by
  cases form with
  | binary =>
    cases h
    exact if_pos hl
  | hexadecimal =>
    have hd : Hex.decode body = .ok p := h
    simp only [command, Command.program?, programOfText?, hd]
    exact if_pos hl

/-- The monitor answers an upload as it deserves. -/
theorem exists_answer (form : UploadForm) {m : Monitor} (hc : dumpLength ≤ m.dumpCapacity)
    {body : Bytes}
    (hr : ∀ machine, m.started? (form.command body) = some machine → machine.run ≠ none) :
    ∃ answer m', m.answer (form.command body) = some (answer, m') ∧
      ((Response.ofAnswer answer).status.number, (Response.ofAnswer answer).body) =
        verdict (form.program body) (Hex.encode m'.session.machine.image) := by
  cases hp : form.program body with
  | error e =>
    refine ⟨.error (.ofDecodeError e), m, ?_, rfl⟩
    rw [Monitor.answer_eq_prepare m _ hc, form.prepare_of_malformed m hp]
  | ok p =>
    rcases Nat.lt_or_ge memorySize p.length with hl | hl
    · refine ⟨.error (.programTooLarge p.length memorySize), m, ?_, ?_⟩
      · rw [Monitor.answer_eq_prepare m _ hc, form.prepare_of_tooLong m hp hl]
      · rw [verdict_tooLong hl]
        rfl
    · have ha := program?_command hp hl
      have hn : ∀ r, ¬ Monitor.Refuses m.dumpCapacity (form.command body) r := by
        intro r hf
        cases ha.symm.trans (hf.not_accepted hc).1
      rcases Monitor.answer_of_not_refuses hn with ⟨s, fault?, hs⟩ | ⟨-, machine, hm, hnone⟩
      · rw [Monitor.report_eq m s fault? hc] at hs
        refine ⟨_, _, hs, ?_⟩
        rw [verdict_fits hl]
        rfl
      · exact absurd hnone (hr machine hm)

end UploadForm

namespace Site

theorem tells_finish (site : Site) {r : Request} (hm : r.method = "POST") (hr : r.route ≠ .page)
    {answer : Except Rejection Reply} {program : Except Hex.DecodeError Bytes} {dump : Bytes}
    (hv : ((Response.ofAnswer answer).status.number, (Response.ofAnswer answer).body) =
      verdict program dump) :
    Tells (site.finish r (.ofAnswer answer)) program dump := by
  have hn : ¬ r.method = "HEAD" := by rw [hm]; decide
  constructor
  · rw [site.body_finish hr, if_neg hn, ← hv]
    rfl
  · rw [site.header?_finish _ _ (by decide)]
    cases answer <;> rfl

/-- A request to upload something: what is done depends on the length of its body. -/
theorem action_upload (site : Site) {form : UploadForm} {r : Request} (hm : r.method = "POST")
    (hp : r.path = form.path) :
    site.action r = upload form.command r.body ∧ r.route ≠ .page := by
  have ho : ¬ (site.cors = true ∧ r.method = "OPTIONS") := by
    rw [hm]
    exact fun h => absurd h.2 (by decide)
  cases form with
  | binary =>
    have hroute : r.route = .loadBinary := by rw [Request.route, hp]; rfl
    refine ⟨?_, by rw [hroute]; decide⟩
    rw [action, if_neg ho, hroute, hm]
    rfl
  | hexadecimal =>
    have hroute : r.route = .loadHex := by rw [Request.route, hp]; rfl
    refine ⟨?_, by rw [hroute]; decide⟩
    rw [action, if_neg ho, hroute, hm]
    rfl

theorem dumpCapacity_of_respond {site site' : Site} {r : Request} {response : Response}
    (h : site.respond r = some (response, site')) :
    site'.monitor.dumpCapacity = site.monitor.dumpCapacity := by
  cases hc : r.command? with
  | none =>
    obtain ⟨response', hr⟩ := site.respond_of_no_command hc
    cases h.symm.trans hr
    rfl
  | some c =>
    rw [site.respond_of_command hc, Option.map_eq_some_iff] at h
    obtain ⟨⟨answer, monitor⟩, ha, he⟩ := h
    cases he
    have hm := Monitor.answer_session ha
    rw [hm]

/-- Requests do not change the room for dumps. -/
theorem dumpCapacity_of_respondAll {requests : List Request} {site site' : Site}
    {responses : List Response} (h : site.respondAll requests = some (responses, site')) :
    site'.monitor.dumpCapacity = site.monitor.dumpCapacity := by
  induction requests generalizing site responses with
  | nil =>
    cases h
    rfl
  | cons r rs ih =>
    cases hr : site.respond r with
    | none => simp [respondAll, hr] at h
    | some p =>
      obtain ⟨response, site₁⟩ := p
      rw [respondAll_cons hr, Option.map_eq_some_iff] at h
      obtain ⟨⟨responses₁, site₂⟩, hrs, he⟩ := h
      cases he
      rw [ih hrs, dumpCapacity_of_respond hr]

theorem respond_short_upload {site : Site} (hc : dumpLength ≤ site.monitor.dumpCapacity)
    {form : UploadForm} {r : Request} (hm : r.method = "POST") (hp : r.path = form.path)
    (hl : r.body.length ≤ uploadLimit)
    (hr : ∀ machine, site.monitor.started? (form.command r.body) = some machine →
      machine.run ≠ none) :
    ∃ response site', site.respond r = some (response, site') ∧
      Tells response (form.program r.body) (Hex.encode site'.monitor.session.machine.image) := by
  obtain ⟨ha, hroute⟩ := site.action_upload hm hp
  obtain ⟨answer, m', hans, hv⟩ := form.exists_answer hc hr
  rw [upload, if_neg (Nat.not_lt.2 hl)] at ha
  refine ⟨site.finish r (.ofAnswer answer), { site with monitor := m' }, ?_,
    site.tells_finish hm hroute hv⟩
  simp only [respond, ha, hans]
  cases answer <;> rfl

theorem respond_long_upload (site : Site) (form : UploadForm) {r : Request}
    (hm : r.method = "POST") (hp : r.path = form.path) (hl : uploadLimit < r.body.length) :
    site.respond r = some (site.finish r .uploadTooLong, site) := by
  obtain ⟨ha, -⟩ := site.action_upload hm hp
  rw [upload, if_pos hl] at ha
  simp only [respond, ha]

theorem finish_uploadTooLong (site : Site) (form : UploadForm) {r : Request}
    (hm : r.method = "POST") (hp : r.path = form.path) :
    (site.finish r .uploadTooLong).status.number = 413 ∧
      (site.finish r .uploadTooLong).body =
        Bytes.ofText "Failed to buffer the request body: length limit exceeded" ∧
      (site.finish r .uploadTooLong).header? "content-type" =
        some "text/plain; charset=utf-8" := by
  obtain ⟨-, hroute⟩ := site.action_upload hm hp
  have hn : ¬ r.method = "HEAD" := by rw [hm]; decide
  refine ⟨rfl, ?_, ?_⟩
  · rw [site.body_finish hroute, if_neg hn]
    rfl
  · rw [site.header?_finish _ _ (by decide)]
    rfl

/-- In every state of a site that has room for dumps, an upload of up to two mebibytes is answered
as its program deserves, if the program stops; a longer one is turned away with a message of its
own, whatever its program is, and leaves the site as it is. -/
theorem respond_upload (settings : Settings) (assets : Assets)
    (hc : 542 ≤ settings.dumpCapacity.toNat) (requests : List Request) (responses : List Response)
    (site : Site) (h : (ofSettings settings assets).respondAll requests = some (responses, site))
    (form : UploadForm) (r : Request) (hm : r.method = "POST") (hp : r.path = form.path) :
    (r.body.length ≤ 2097152 →
      (∀ machine, site.monitor.started? (form.command r.body) = some machine →
        machine.run ≠ none) →
      ∃ response site', site.respond r = some (response, site') ∧
        Tells response (form.program r.body) (Hex.encode site'.monitor.session.machine.image)) ∧
    (2097152 < r.body.length →
      ∃ response, site.respond r = some (response, site) ∧ response.status.number = 413 ∧
        response.body =
          Bytes.ofText "Failed to buffer the request body: length limit exceeded" ∧
        response.header? "content-type" = some "text/plain; charset=utf-8") := by
  have hcap : dumpLength ≤ site.monitor.dumpCapacity := by
    rw [dumpCapacity_of_respondAll h]
    exact hc
  constructor
  · intro hl hr
    exact respond_short_upload hcap hm hp hl hr
  · intro hl
    exact ⟨_, site.respond_long_upload form hm hp hl, site.finish_uploadTooLong form hm hp⟩

/-- After a program that faulted: a text that is read and executed, one digit alone, and a text of
other letters that is turned away for its length. -/
theorem respond_upload_both_ways :
    let load : Request := { method := "POST", target := { path := "/load/bin" }, body := [0x05] }
    let text (body : Bytes) : Request :=
      { method := "POST", target := { path := "/load/hex" }, body }
    ∃ responses site, (ofSettings {} {}).respondAll [load] = some (responses, site) ∧
      (∃ response site', site.respond (text [0x33, 0x32, 0x30, 0x37]) = some (response, site') ∧
        response.status.number = 200 ∧
        response.body = Hex.encode site'.monitor.session.machine.image ∧
        Bytes.toCharacters (response.body.take 4) = "3207") ∧
      (∃ response site', site.respond (text [0x30]) = some (response, site') ∧
        response.status.number = 400 ∧
        response.body.toCharacters = "Invalid hex encoding: Odd number of digits") ∧
      ∃ response, site.respond (text (List.replicate 2097153 0x67)) = some (response, site) ∧
        response.status.number = 413 ∧
        response.body =
          Bytes.ofText "Failed to buffer the request body: length limit exceeded" := by
  intro load text
  have hs : ((ofSettings {} {}).respondAll [load]).isSome := by decide +kernel
  obtain ⟨⟨responses, site⟩, h⟩ := Option.isSome_iff_exists.1 hs
  have hu (body : Bytes) := respond_upload {} {} (by decide) [load] responses site h .hexadecimal
    (text body) rfl rfl
  refine ⟨responses, site, h, ?_, ?_, ?_⟩
  · have hp : UploadForm.hexadecimal.program [0x33, 0x32, 0x30, 0x37] = .ok [0x32, 0x07] := rfl
    have hstops : (Session.loaded [0x32, 0x07]).machine.run.isSome := by decide +kernel
    have hd : ((ofSettings {} {}).respondAll [load]).bind (fun p =>
        (p.2.respond (text [0x33, 0x32, 0x30, 0x37])).map fun q =>
          Bytes.toCharacters (q.1.body.take 4)) = some "3207" := by decide +kernel
    have hrun : ∀ machine, site.monitor.started?
        (UploadForm.hexadecimal.command [0x33, 0x32, 0x30, 0x37]) = some machine →
        machine.run ≠ none := by
      intro machine hm
      obtain ⟨-, hm⟩ := Option.ite_none_right_eq_some.1 hm
      rw [UploadForm.program?_command hp (by decide), Option.map_some] at hm
      rw [← Option.some.inj hm]
      exact Option.isSome_iff_ne_none.1 hstops
    obtain ⟨response, site', hr, ht, -⟩ := (hu [0x33, 0x32, 0x30, 0x37]).1 (by decide) hrun
    rw [hp, verdict_fits (by decide)] at ht
    obtain ⟨hst, hb⟩ := Prod.mk.inj ht
    rw [h, Option.bind_some, hr, Option.map_some] at hd
    exact ⟨response, site', hr, hst, hb, Option.some.inj hd⟩
  · have hp : UploadForm.hexadecimal.program [0x30] = .error .oddLength := rfl
    have ht : (Bytes.ofText ("Invalid hex encoding: " ++ Hex.DecodeError.oddLength.message)
        ).toCharacters = "Invalid hex encoding: Odd number of digits" := by decide +kernel
    have hrun : ∀ machine, site.monitor.started? (UploadForm.hexadecimal.command [0x30]) =
        some machine → machine.run ≠ none := by
      intro machine hm
      cases (Option.ite_none_right_eq_some.1 hm).2
    obtain ⟨response, site', hr, hv, -⟩ := (hu [0x30]).1 (by decide) hrun
    rw [hp] at hv
    obtain ⟨hst, hb⟩ := Prod.mk.inj hv
    exact ⟨response, site', hr, hst, by rw [hb, ht]⟩
  · have hl : 2097152 < (text (List.replicate 2097153 0x67)).body.length := by
      rw [List.length_replicate]
      decide
    obtain ⟨response, hr, hst, hb, -⟩ := (hu _).2 hl
    exact ⟨response, hr, hst, hb⟩

/-- A text of odd length that the site turns away for its length alone, and not as the text that it
is. -/
theorem not_tells_long_text :
    let site := ofSettings {} {}
    let r : Request :=
      { method := "POST", target := { path := "/load/hex" }, body := List.replicate 2097153 0x30 }
    ∃ response, site.respond r = some (response, site) ∧ response.status.number = 413 ∧
      UploadForm.hexadecimal.program r.body = .error .oddLength ∧
      ∀ dump, ¬ Tells response (UploadForm.hexadecimal.program r.body) dump := by
  intro site r
  have hlen : r.body.length = 2097153 := List.length_replicate
  have hl : uploadLimit < r.body.length := by
    rw [hlen]
    decide
  have hp : UploadForm.hexadecimal.program r.body = .error .oddLength :=
    Hex.decode_oddLength (by rw [hlen])
  have hr := site.respond_long_upload .hexadecimal (r := r) rfl rfl hl
  have hf := site.finish_uploadTooLong .hexadecimal (r := r) rfl rfl
  refine ⟨_, hr, hf.1, hp, ?_⟩
  intro dump ht
  rw [hp, Tells, hf.1] at ht
  have hn : 413 = 400 := congrArg Prod.fst ht.1
  exact absurd hn (by decide)

end Site

end Http

end HexMonitor
