import PluginBridge.Proofs.World.Keeping

/-! Whatever is done to a world comes to changes of its state, one after another,
and to more code on its shelf. This is a law that asks nothing of programs. -/
namespace PluginBridge
variable {Memory : Type}

/-- What a world can come to: changes lead from state to state, and code that has
been defined stays where it is. -/
def World.Reaches (world later : World Memory) : Prop :=
  world.state.Reaches later.state ∧ world.shelf <+: later.shelf

namespace World.Reaches
variable {world between later : World Memory}

theorem refl (world : World Memory) : world.Reaches world :=
  ⟨.refl world.state, List.prefix_refl world.shelf⟩

theorem trans (first : world.Reaches between) (second : between.Reaches later) :
    world.Reaches later :=
  ⟨first.1.trans second.1, first.2.trans second.2⟩

theorem alter {change : State → State} (reaches : world.state.Reaches (change world.state)) :
    world.Reaches (world.alter change) :=
  ⟨reaches, List.prefix_refl world.shelf⟩

end World.Reaches

namespace World.Law

/-- The law that changes lead to what a world comes to, whatever they are. -/
def reaching : World.Law Memory :=
  World.ChangeLaw.toLaw {
    rule := fun _ _ => True
    comes := World.Reaches
    refl := .refl
    trans := .trans
    incidental := fun change world _ => .alter (world.state.changed change)
    asked := fun change world _ _ => .alter (world.state.changed change)
    remembered := fun world _ => .refl world
    defined := fun world _ _ => ⟨.refl world.state, List.prefix_append ..⟩
    reckless := fun reckless _ => absurd (fun _ _ _ _ => Program.minds_of_lax _ none) reckless }

theorem reaching_grants (state : State) (change : Change) :
    (reaching : World.Law Memory).Grants state change :=
  fun world _ => .alter (world.state.changed change)

theorem reaching_indulges (core : Plugin.CoreId) : (reaching : World.Law Memory).Indulges core :=
  ⟨fun state _ => reaching_grants state _, fun state _ => reaching_grants state _,
    fun state _ _ => reaching_grants state _⟩

theorem reaching_living : (reaching : World.Law Memory).Living :=
  .of_grants fun state change _ => reaching_grants state change

end World.Law

theorem callWithin_reaches (depth : Nat) : (callWithin depth : Caller Memory).Keeps .reaching :=
  callWithin_keeps World.Law.reaching_living depth

/-- Whatever a program does, it only leads to states that changes lead to. -/
theorem World.run_reaches (world : World Memory) (depth : Nat) (program : Program Memory .main) :
    world.Reaches (world.run depth program).2 :=
  World.run_comes Law.reaching_living world depth
    (program.heeds_of_lax Request.rule_lax none)

/-- Every state that a run from the beginning ends in can be reached by changes. -/
theorem World.run_reachable (kind : Host.Kind) (surroundings : Surroundings) (memory : Memory)
    (depth : Nat) (program : Program Memory .main) :
    ((World.initial kind surroundings memory).run depth program).2.state.Reachable :=
  ⟨kind, surroundings, (World.run_reaches _ depth program).1⟩

end PluginBridge
