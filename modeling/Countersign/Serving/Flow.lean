import Countersign.Serving.Program

/-!
# Bodies in the making

A response need not have its body at hand. A **flow** is a body that is made while it is
read: frames, and between them questions to the server, on whose replies it depends how
the flow goes on (`Countersign.Serving.Flow`). That is how an application passes on the
body of a request as it comes in, or asks for its context when it has answered already.

Reading a flow is a program (`Countersign.Serving.Flow.frames`), which ends with the frames
that the flow came to. Nobody reads on after a failure, so what would have been asked after
one is not asked. A body that is at hand is a flow in which nothing is asked.

What kind of body its responses have is for the application to say. All that is asked of a
kind is that it can be read as a flow, and that data can be made into a body of that kind
(`Countersign.Serving.Flowing`).
-/

namespace Countersign.Serving

open Http

universe u

/-- A body that is made while it is read. -/
inductive Flow : Type 1 where
  | done
  | frame (f : Frame) (rest : Flow)
  | ask {β : Type} (q : Ask β) (next : β → Flow)

namespace Flow

/-- The flow of a body that is at hand. -/
def ofBody : Body → Flow
  | [] => done
  | f :: r => frame f (ofBody r)

/-- Read a flow: its frames, up to and with the first failure. -/
def frames : Flow → Program Body
  | done => return []
  | frame (.piece (.failure m)) _ => return [.piece (.failure m)]
  | frame f rest => do
    let r ← rest.frames
    return f :: r
  | ask q next => .ask q fun b => (next b).frames

end Flow

/-- A kind of body: what can be read as a flow, and made of data. -/
class Flowing (β : Type u) where
  flow : β → Flow
  ofBytes : Bytes → β
  /-- What is made of data is one frame of them. -/
  flow_ofBytes : ∀ b, flow (ofBytes b) = .frame (.piece (.data b)) .done

instance : Flowing Body := ⟨Flow.ofBody, Body.ofBytes, fun _ => rfl⟩

instance : Flowing Flow := ⟨id, fun b => .frame (.piece (.data b)) .done, fun _ => rfl⟩

end Countersign.Serving
