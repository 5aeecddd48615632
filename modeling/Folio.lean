import Folio.Build
import Folio.CommandLine
import Folio.Compiler.Registry
import Folio.Config.Load
import Folio.Console
import Folio.FileSystem
import Folio.FrontMatter
import Folio.Lua
import Folio.Main
import Folio.Markdown
import Folio.Program
import Folio.Render
import Folio.Renderer
import Folio.Template
import Folio.Toml
import Folio.Watch.Debouncer
import Folio.Watch.Loop
import Folio.Watch.Session
import Folio.Watch.Watcher
import Folio.Yaml
import Folio.Proofs.Build.Attempt
import Folio.Proofs.Build.Confinement
import Folio.Proofs.Build.Document
import Folio.Proofs.FileSystem.Change
import Folio.Proofs.FileSystem.Tree
import Folio.Proofs.FileSystem.Way
import Folio.Proofs.FileSystem.Writable
import Folio.Proofs.Path.Extension
import Folio.Proofs.Path.Steps
import Folio.Proofs.Path.Order
import Folio.Proofs.Path.Target
import Folio.Proofs.Text.Clip
import Folio.Proofs.Text.Replace
import Folio.Proofs.Variables
import Folio.Proofs.Console.Log
import Folio.Proofs.Console.Screen
import Folio.Proofs.Console.Status
import Folio.Proofs.Markdown.Mask
import Folio.Proofs.Markdown.Scan
import Folio.Proofs.Markdown.QuotedTags
import Folio.Proofs.Markdown.Substitution
import Folio.Proofs.FrontMatter.Grammar
import Folio.Proofs.Lua.Globals
import Folio.Proofs.Lua.Growth
import Folio.Proofs.Lua.Table
import Folio.Proofs.Lua.Values
import Folio.Proofs.Resources.Resolution
import Folio.Proofs.Render.Walk
import Folio.Proofs.Render.Trail
import Folio.Proofs.Render.Outcome
import Folio.Proofs.Render.Cycle
import Folio.Proofs.Render.Caller
import Folio.Proofs.Render.Compilers
import Folio.Proofs.Render.Composition
import Folio.Proofs.Render.Dependence
import Folio.Proofs.Render.Entry
import Folio.Proofs.Render.Names
import Folio.Proofs.Render.Scopes
import Folio.Proofs.Renderer.Outline
import Folio.Proofs.Renderer.Reads
import Folio.Proofs.Render.Interchange
import Folio.Proofs.Config.Load
import Folio.Proofs.Config.Validation
import Folio.Proofs.Compiler.Binding
import Folio.Proofs.Compiler.Registry
import Folio.Proofs.Compiler.Reload
import Folio.Proofs.Build.Listing
import Folio.Proofs.Build.Documents
import Folio.Proofs.Build.Plan
import Folio.Proofs.Build.Site
import Folio.Proofs.Build.Sources
import Folio.Proofs.Watch.Batch
import Folio.Proofs.Watch.Consistency
import Folio.Proofs.Watch.Documents
import Folio.Proofs.Watch.Drawing
import Folio.Proofs.Watch.Loop
import Folio.Proofs.Watch.OwnOutput
import Folio.Proofs.Watch.Plan
import Folio.Proofs.Watch.Render
import Folio.Proofs.Watch.Session
import Folio.Proofs.Watch.Targets
import Folio.Proofs.Watch.UpToDate
