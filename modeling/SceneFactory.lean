import SceneFactory.Attributes
import SceneFactory.Value.Text
import SceneFactory.Markup.Engine
import SceneFactory.Config
import SceneFactory.Content.Json
import SceneFactory.Scene.Lemmas
import SceneFactory.Scripted.Status
import SceneFactory.Main
import SceneFactory.Proofs.Scene.Views
import SceneFactory.Proofs.World.Change
import SceneFactory.Proofs.Session.Runs
import SceneFactory.Proofs.Scene.Tree
import SceneFactory.Proofs.Release.Accounts
import SceneFactory.Proofs.Release.Steps
import SceneFactory.Proofs.Release.OnTime
import SceneFactory.Proofs.Construction.Initial
import SceneFactory.Proofs.Construction.Lookup
import SceneFactory.Proofs.Construction.Writes
import SceneFactory.Proofs.Construction.Create
import SceneFactory.Proofs.Markup.Places
import SceneFactory.Proofs.Markup.Stops
import SceneFactory.Proofs.Markup.Reported
import SceneFactory.Proofs.World.Failure
import SceneFactory.Proofs.Contexts.Grounded
import SceneFactory.Proofs.Template.Failures
import SceneFactory.Proofs.Template.Outcomes
import SceneFactory.Proofs.Creation.Failure
import SceneFactory.Proofs.Creation.Batch
import SceneFactory.Proofs.Modes.Agreement
import SceneFactory.Proofs.Lifetime.Alive
import SceneFactory.Proofs.Markup.Written
import SceneFactory.Proofs.Template.Resolution
import SceneFactory.Proofs.Markup.Snapshots
import SceneFactory.Proofs.Markup.Losses
import SceneFactory.Proofs.Isolation.Sessions
import SceneFactory.Proofs.Markup.BlockComments
import SceneFactory.Proofs.Template.Slices
import SceneFactory.Proofs.Template.Memo
import SceneFactory.Proofs.CommandLine.Outcome
import SceneFactory.Proofs.Construction.History
import SceneFactory.Proofs.EventQueue.Order
import SceneFactory.Proofs.Markup.Integers
import SceneFactory.Proofs.Markup.Pointing
import SceneFactory.Proofs.Contexts.Scopes
import SceneFactory.Proofs.Release.Unordered
import SceneFactory.Proofs.Release.Shared
import SceneFactory.Proofs.Markup.Locations
import SceneFactory.Proofs.Template.Overflow
import SceneFactory.Proofs.Markup.Roots
import SceneFactory.Proofs.Markup.Spans
import SceneFactory.Proofs.Content.Readings
import SceneFactory.Proofs.Markup.Tokens
