import HexMonitor.Settings.Environment

namespace HexMonitor

namespace Setting

def Value : Setting → Type
  | listen => Net.SocketAddress
  | www | index | logFilter => String
  | dumpCapacity => UInt64
  | loadMode => LoadMode

def default : (s : Setting) → s.Value
  | listen => Net.SocketAddress.v4 ⟨0, 0, 0, 0⟩ 8080
  | www => "www"
  | index => "/index.html"
  | dumpCapacity => (2000 : UInt64)
  | loadMode => LoadMode.fused
  | logFilter => "info"

/-- The value that a text denotes, or what is wrong with the text. -/
def parse : (s : Setting) → String → Except EarlyExit s.Value
  | listen, text =>
    (Net.SocketAddress.ofText? text).elim (.error (.malformedAddress text)) .ok
  | www, text => if text = "" then .error .emptyPath else .ok text
  | index, text => .ok text
  | dumpCapacity, text =>
    (Settings.readCapacity? text).elim (.error (.malformedCapacity text)) .ok
  | loadMode, text => (LoadMode.ofName? text).elim (.error (.unknownMode text)) .ok
  | logFilter, text => .ok text

theorem nodup_all : all.Nodup := by decide

theorem mem_all (s : Setting) : s ∈ all := by cases s <;> decide

end Setting

namespace Settings

def value (settings : Settings) : (s : Setting) → s.Value
  | .listen => settings.listen
  | .www => settings.www
  | .index => settings.index
  | .dumpCapacity => settings.dumpCapacity
  | .loadMode => settings.loadMode
  | .logFilter => settings.logFilter

theorem eq_of_values {settings settings' : Settings}
    (h : ∀ s, settings.value s = settings'.value s) (hc : settings.cors = settings'.cors) :
    settings = settings' := by
  obtain ⟨_, _, _, _, _, _, _⟩ := settings
  obtain ⟨_, _, _, _, _, _, _⟩ := settings'
  rw [Settings.mk.injEq]
  exact ⟨h .listen, h .www, h .index, h .dumpCapacity, h .loadMode, hc, h .logFilter⟩

namespace Draft

def value? (d : Draft) : (s : Setting) → Option s.Value
  | .listen => d.listen?
  | .www => d.www?
  | .index => d.index?
  | .dumpCapacity => d.dumpCapacity?
  | .loadMode => d.loadMode?
  | .logFilter => d.logFilter?

def setValue (d : Draft) : (s : Setting) → s.Value → Draft
  | .listen, address => { d with listen? := some address }
  | .www, path => { d with www? := some path }
  | .index, page => { d with index? := some page }
  | .dumpCapacity, capacity => { d with dumpCapacity? := some capacity }
  | .loadMode, mode => { d with loadMode? := some mode }
  | .logFilter, filter => { d with logFilter? := some filter }

@[simp] theorem value?_setValue_self (d : Draft) (s : Setting) (v : s.Value) :
    (d.setValue s v).value? s = some v := by
  cases s <;> rfl

theorem value?_setValue_of_ne (d : Draft) {s s' : Setting} (h : s' ≠ s) (v : s.Value) :
    (d.setValue s v).value? s' = d.value? s' := by
  cases s <;> cases s' <;> first | rfl | exact absurd rfl h

@[simp] theorem cors_setValue (d : Draft) (s : Setting) (v : s.Value) :
    (d.setValue s v).cors = d.cors := by
  cases s <;> rfl

theorem has_eq (d : Draft) (s : Setting) : d.has s = (d.value? s).isSome := by
  cases s <;> rfl

theorem put_eq (d : Draft) (s : Setting) (text : String) :
    d.put s text = (s.parse text).map (d.setValue s) := by
  cases s with
  | listen =>
    unfold put Setting.parse
    dsimp only
    cases Net.SocketAddress.ofText? text <;> rfl
  | www =>
    unfold put Setting.parse
    dsimp only
    split <;> rfl
  | index | logFilter => rfl
  | dumpCapacity =>
    unfold put Setting.parse
    dsimp only
    cases readCapacity? text <;> rfl
  | loadMode =>
    unfold put Setting.parse
    dsimp only
    cases LoadMode.ofName? text <;> rfl

theorem value_finish (d : Draft) (s : Setting) :
    d.finish.value s = (d.value? s).getD s.default := by
  cases s <;> rfl

end Draft

end Settings

end HexMonitor
