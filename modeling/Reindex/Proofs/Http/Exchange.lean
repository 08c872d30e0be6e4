import Reindex.Http.Exchange

/-!
# Sequences of requests and replies

`Trades` says that a server got some requests, one after another, and gave the replies beside them.
-/

namespace Reindex.Http

variable {τ : Type} {server : Server τ}

/-- The requests reach the server in this order, and the replies are the server's. -/
def Trades (server : Server τ) : Exchange τ → List (Request × Reply) → Exchange τ → Prop
  | x, [], x' => x' = x
  | x, (r, reply) :: rest, x' =>
    reply = (server.respond r x.state).1 ∧
      Trades server ⟨(server.respond r x.state).2, x.sent ++ [r]⟩ rest x'

theorem trades_append {a b : List (Request × Reply)} {x x' : Exchange τ} :
    Trades server x (a ++ b) x' ↔
      ∃ between, Trades server x a between ∧ Trades server between b x' := by
  induction a generalizing x with
  | nil => simp only [List.nil_append, Trades, exists_eq_left]
  | cons trade rest ih => simp only [List.cons_append, Trades, ih, and_assoc, exists_and_left]

theorem Trades.sent {trades : List (Request × Reply)} {x x' : Exchange τ}
    (h : Trades server x trades x') : x'.sent = x.sent ++ trades.map Prod.fst := by
  induction trades generalizing x with
  | nil =>
    obtain rfl := h
    exact (List.append_nil _).symm
  | cons trade rest ih =>
    rw [ih h.2, List.append_assoc, List.map_cons, List.singleton_append]

/-- Of a script, each request gets the next reply. -/
theorem Trades.script {serves : Url → Bool} {trades : List (Request × Reply)}
    {x x' : Exchange (List Reply)} (h : Trades (.script serves) x trades x')
    (hlength : trades.length ≤ x.state.length) :
    trades.map Prod.snd = x.state.take trades.length := by
  induction trades generalizing x with
  | nil => rfl
  | cons trade rest ih =>
    obtain ⟨script, sent⟩ := x
    cases script with
    | nil => cases hlength
    | cons reply script =>
      -- The script goes on without its first reply, and so do the exchanges.
      obtain ⟨hreply, hrest⟩ := h
      rw [List.map_cons, ih hrest (Nat.le_of_succ_le_succ hlength), hreply]
      rfl

/-- A request that can be sent, to a server that is there. -/
theorem send_eq {r : Request} (hhttp : r.url.isHttp = true) (hserves : server.serves r.url = true)
    (x : Exchange τ) :
    x.send server r =
      (r.receive (server.respond r x.state).1,
        ⟨(server.respond r x.state).2, x.sent ++ [r]⟩) := by
  unfold Exchange.send
  rw [hhttp, hserves]
  rfl

end Reindex.Http
