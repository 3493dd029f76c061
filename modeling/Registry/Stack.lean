import Registry.Model

/-!
# Stacking

One document on top of another. Groups merge by id, and inside a group its resource collections
merge by id, where a resource of the upper document replaces one of the lower. Any other attribute of
the upper document replaces that of the lower.
-/

namespace Registry.Stack

def putAll (base top : Fields) : Fields := top.foldl (fun fields e => fields.insert e.1 e.2) base

/-- Puts an attribute of a group on top of a group. -/
def overlayAttribute (type : GroupType) (base : Fields) (key : String) (v : Value) : Fields :=
  match type.resource? key, v with
  | some _, .mapping resources => base.within key (putAll · resources)
  | _, v => base.insert key v

def overlayGroup (type : GroupType) (base : Fields) (id : String) (group : Value) : Fields :=
  match base.get? id, group with
  | some (.mapping lower), .mapping upper =>
    base.insert id
      (.mapping (upper.foldl (fun fields e => overlayAttribute type fields e.1 e.2) lower))
  | _, group => base.insert id group

def overlayEntry (m : Model) (base : Fields) (key : String) (v : Value) : Fields :=
  match m.collection? key, v with
  | some type, .mapping groups =>
    base.within key fun lower =>
      groups.foldl (fun fields e => overlayGroup type fields e.1 e.2) lower
  | _, v => base.insert key v

def overlay (m : Model) (base top : Fields) : Fields :=
  top.foldl (fun fields e => overlayEntry m fields e.1 e.2) base

end Registry.Stack
