import XrtcServer.Ice.Selection

/-!
# The order of the sort

The comparison of the controller is a strict weak order, on whatever values it reads. The sort
therefore puts no connection behind one that is worse, and keeps the order of connections that
compare equal.
-/

namespace XrtcServer.Ice
open XrtcServer.Core IceTransportChannel

/-- What `sort_and_switch_connection` makes of the list of the controller. -/
structure SortsStably (ch ch' : IceTransportChannel) : Prop where
  perm : ch'.iceController.connections.Perm ch.iceController.connections
  sorted : ch'.iceController.connections.Pairwise fun p q => ch.better q p = false
  stable : ∀ p, ch'.iceController.connections.filter (tied ch.better p) =
    ch.iceController.connections.filter (tied ch.better p)

lemma sortsStably (ch : IceTransportChannel) : SortsStably ch ch.sortAndSwitchConnection.2 := by
  have horder := ch.strictWeak_better
  rw [sortAndSwitchConnection_snd]
  exact ⟨stableSort_perm _ _, horder.pairwise_stableSort _,
    fun p => horder.filter_tied_stableSort p _⟩

/-- The comparison orders all connections, and all values that it can read from them, and the list
is sorted by it. -/
theorem connections_sorted :
    IsStrictWeakOrder Standing (fun a b => a.better b = true) ∧
      Std.Asymm (fun a b : Standing => a.better b = true) ∧
      (∀ a b : IceConnection, a.better b = a.standing.better b.standing) ∧
      IsStrictWeakOrder IceConnection (fun a b => a.better b = true) ∧
      Std.Asymm (fun a b : IceConnection => a.better b = true) ∧
      ∀ ch : IceTransportChannel, SortsStably ch ch.sortAndSwitchConnection.2 :=
  ⟨Standing.better_strictWeak.isStrictWeakOrder, Standing.better_strictWeak.asymmetric,
    IceConnection.better_standing, IceConnection.better_strictWeak.isStrictWeakOrder,
    IceConnection.better_strictWeak.asymmetric, sortsStably⟩

end XrtcServer.Ice
