import ThemeEditor.Main
import ThemeEditor.Proofs.Json.Grammar
import ThemeEditor.Proofs.Json.Reading
import ThemeEditor.Proofs.Json.Record
import ThemeEditor.Proofs.Json.Writing
import ThemeEditor.Proofs.Json.Tree
import ThemeEditor.Proofs.Json.Accepting
import ThemeEditor.Proofs.Json.Numeral
import ThemeEditor.Proofs.Json.Passing
import ThemeEditor.Proofs.Json.Fields
import ThemeEditor.Proofs.RoundTrip
import ThemeEditor.Proofs.Settings.Flags
import ThemeEditor.Proofs.Settings.Document
import ThemeEditor.Proofs.Settings.Valid
import ThemeEditor.Proofs.Settings.Names
import ThemeEditor.Proofs.Disk.Sound
import ThemeEditor.Proofs.Disk.Stopping
import ThemeEditor.Proofs.Disk.Walk
import ThemeEditor.Proofs.Disk.File
import ThemeEditor.Proofs.Disk.Directory
import ThemeEditor.Proofs.Disk.Overwrite
import ThemeEditor.Proofs.Disk.Added
import ThemeEditor.Proofs.Disk.Presence
import ThemeEditor.Proofs.Storage.Place
import ThemeEditor.Proofs.Storage.Persistence
import ThemeEditor.Proofs.Storage.LongName
import ThemeEditor.Proofs.Storage.Content
import ThemeEditor.Proofs.Storage.Export
import ThemeEditor.Proofs.Storage.Anywhere
import ThemeEditor.Proofs.Storage.Key
import ThemeEditor.Proofs.Storage.Room
import ThemeEditor.Proofs.Storage.Map
import ThemeEditor.Proofs.Session.Operation
import ThemeEditor.Proofs.Session.Baseline
import ThemeEditor.Proofs.Session.Export
import ThemeEditor.Proofs.Session.Atomic
import ThemeEditor.Proofs.Session.Turn
import ThemeEditor.Proofs.Session.Banner
import ThemeEditor.Proofs.Command.Settling
import ThemeEditor.Proofs.Command.History
import ThemeEditor.Proofs.Command.Recovery
import ThemeEditor.Proofs.Command.Keeping
import ThemeEditor.Proofs.Theme.Alone
import ThemeEditor.Proofs.Random.Arrangement
import ThemeEditor.Proofs.Theme.Pool
import ThemeEditor.Proofs.Theme.Conservation
import ThemeEditor.Proofs.Theme.Loading
import ThemeEditor.Proofs.Toml.Tables
import ThemeEditor.Proofs.Toml.Lines
import ThemeEditor.Proofs.Config.Paths
import ThemeEditor.Proofs.Config.Variables
import ThemeEditor.Proofs.Config.Reading
import ThemeEditor.Proofs.Config.Limits
import ThemeEditor.Proofs.Config.Setting
import ThemeEditor.Proofs.Config.Layers
import ThemeEditor.Proofs.Config.Find
import ThemeEditor.Proofs.Config.Once
import ThemeEditor.Proofs.Config.DefaultText
import ThemeEditor.Proofs.Config.Defaults
import ThemeEditor.Proofs.Config.Create
import ThemeEditor.Proofs.Session.Views
import ThemeEditor.Proofs.Theme.Requests
import ThemeEditor.Proofs.Theme.Blocks
import ThemeEditor.Proofs.Palette.Run
import ThemeEditor.Proofs.Palette.Stack
import ThemeEditor.Proofs.Theme.Document
import ThemeEditor.Proofs.Session.Valid
import ThemeEditor.Proofs.Random.Words
import ThemeEditor.Proofs.Random.Unbiased
import ThemeEditor.Proofs.Store.History
import ThemeEditor.Proofs.Theme.Served
import ThemeEditor.Proofs.Settings.Members
import ThemeEditor.Proofs.Session.Form
import ThemeEditor.Proofs.Text.Bytes
import ThemeEditor.Proofs.Text.LowerCase
import ThemeEditor.Proofs.Text.Trim
import ThemeEditor.Proofs.Theme.Address
import ThemeEditor.Proofs.Input.Color
import ThemeEditor.Proofs.Input.FlagName
import ThemeEditor.Proofs.Input.BackendUrl
import ThemeEditor.Proofs.Settings.Listing
import ThemeEditor.Proofs.Session.Switches
