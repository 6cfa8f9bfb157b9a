import Topograph.Proofs.Network.ReadTopology
import Topograph.Proofs.Service.Acceptable
import Topograph.Service.Compiler
import Topograph.Snippet.Envelope

/-!
# Topologies from outside

A topology reaches a session in a reply of the compiler or in the content of a snippet. Either way
it was read from a document, so it is writable.
-/
namespace Topograph

namespace Compiler

theorem exists_body {c : Client} {refusal : Int → Bytes → Except Failure RawText} {α : Type}
    {f : Bytes → Except Failure α} {reply : Reply} {a : α}
    (h : (reply.granted c refusal).bind f = .ok a) : ∃ body, f body = .ok a := by
  cases granted : reply.granted c refusal with
  | error e =>
    rw [granted] at h
    exact absurd h (by simp [Except.bind])
  | ok body =>
    rw [granted] at h
    exact ⟨body, h⟩

/-- The graph under a key of a writable document. -/
theorem isWritable_of_object? {v : Json} (h : v.IsWritable) {key : RawText} {graph : Json}
    (found : (v.get? key).bind Json.object? = some graph) : graph.IsWritable := by
  obtain ⟨w, got, object⟩ := Option.bind_eq_some_iff.mp found
  have writable : w.IsWritable := by
    have value := h.getD key
    rwa [got] at value
  cases w with
  | object fields =>
    obtain rfl := Option.some.inj object
    exact writable
  | _ => exact absurd object (by simp [Json.object?])

theorem isWritable_of_document? {c : Client} {body : Bytes} {v : Json}
    (h : c.document? body = .ok (some v)) : v.IsWritable :=
  Json.isWritable_of_readBody? (Client.document?_eq_some_iff.mp h)

theorem isWritable_of_compiled {c : Client} {body : Bytes} {t : Topology}
    (h : compiled c body = .ok t) : t.IsWritable := by
  unfold compiled at h
  split at h
  · exact absurd h (by simp)
  · exact absurd h (by simp)
  · rename_i v document
    split at h
    · rename_i graph found
      obtain rfl := Except.ok.inj h
      apply Topology.isWritable_ofGraph
      exact isWritable_of_object? (isWritable_of_document? document) found
    · exact absurd h (by simp)

theorem isWritable_of_readCompiled {c : Client} {reply : Reply} {t : Topology}
    (h : readCompiled c reply = .ok t) : t.IsWritable := by
  obtain ⟨body, compiled⟩ := exists_body h
  exact isWritable_of_compiled compiled

theorem isWritable_of_converted {c : Client} {body : Bytes} {r : Conversion}
    (h : converted c body = .ok r) : r.topology.IsWritable := by
  unfold converted at h
  split at h
  · exact absurd h (by simp)
  · exact absurd h (by simp)
  · rename_i v document
    split at h
    · rename_i dsl graph _ found
      split at h
      · exact absurd h (by simp)
      · obtain rfl := Except.ok.inj h
        apply Topology.isWritable_ofGraph
        exact isWritable_of_object? (isWritable_of_document? document) found
    · exact absurd h (by simp)

theorem isWritable_of_readConverted {c : Client} {reply : Reply} {r : Conversion}
    (h : readConverted c reply = .ok r) : r.topology.IsWritable := by
  obtain ⟨body, converted⟩ := exists_body h
  exact isWritable_of_converted converted

end Compiler

theorem Envelope.isWritable_of_parse {headroom : Json.Headroom} {content dsl : RawText}
    {t : Topology} (h : parse headroom content = .ok (dsl, t)) : t.IsWritable := by
  unfold parse at h
  split at h
  · exact absurd h (by simp)
  · exact absurd h (by simp)
  · rename_i v document
    split at h
    · rename_i r parts
      obtain rfl := Except.ok.inj h
      unfold ofJson? at parts
      obtain ⟨text, -, parts⟩ := Option.bind_eq_some_iff.mp parts
      obtain ⟨graph, found, parts⟩ := Option.bind_eq_some_iff.mp parts
      obtain ⟨-, rfl⟩ := Prod.mk.inj (Option.some.inj parts)
      apply Topology.isWritable_ofGraph
      exact Compiler.isWritable_of_object? (Json.isWritable_of_read document) found
    · exact absurd h (by simp)

end Topograph
