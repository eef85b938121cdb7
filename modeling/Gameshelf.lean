import Gameshelf.Access.Credentials
import Gameshelf.Access.Users
import Gameshelf.Address
import Gameshelf.Address.Host
import Gameshelf.Catalog.Basic
import Gameshelf.Catalog.ContentFile
import Gameshelf.Catalog.Holder
import Gameshelf.Catalog.TitleIndex
import Gameshelf.CommandLine.Arguments
import Gameshelf.CommandLine.Flag
import Gameshelf.CommandLine.Run
import Gameshelf.Disk.Basic
import Gameshelf.Disk.Change
import Gameshelf.Disk.Document
import Gameshelf.Disk.FileName
import Gameshelf.Disk.Resolution
import Gameshelf.Disk.Walk
import Gameshelf.Download.Answer
import Gameshelf.Download.ByteRange
import Gameshelf.Download.MediaType
import Gameshelf.Download.SafePath
import Gameshelf.Download.Transfer
import Gameshelf.Encoding.Base64
import Gameshelf.Encoding.Detect
import Gameshelf.Encoding.Percent
import Gameshelf.Encoding.Utf8
import Gameshelf.Failure
import Gameshelf.Json.Basic
import Gameshelf.Json.Halves
import Gameshelf.Json.Read
import Gameshelf.Json.Write
import Gameshelf.Library.Scan
import Gameshelf.Library.Scanner
import Gameshelf.Main
import Gameshelf.Number.Binary64
import Gameshelf.Numeral
import Gameshelf.Path
import Gameshelf.Register
import Gameshelf.Server.Answer
import Gameshelf.Server.App
import Gameshelf.Server.Message
import Gameshelf.Server.RateLimit
import Gameshelf.Server.Route
import Gameshelf.Server.Shop
import Gameshelf.Settings.Basic
import Gameshelf.Settings.Field
import Gameshelf.Settings.Sources
import Gameshelf.Shop.Entry
import Gameshelf.Shop.Section
import Gameshelf.Text.Case
import Gameshelf.Text.CaseTable
import Gameshelf.Text.CharClass
import Gameshelf.Text.Loose
import Gameshelf.Text.PrintableTable
import Gameshelf.Text.Quoted
import Gameshelf.Text.WordTable
import Gameshelf.Text.Words
import Gameshelf.Title.Id
import Gameshelf.Title.Token
import Gameshelf.Titles.Cache
import Gameshelf.Titles.Config
import Gameshelf.Titles.Directory
import Gameshelf.Titles.Info
import Gameshelf.Titles.Source
import Gameshelf.Proofs.Access.Users
import Gameshelf.Proofs.Catalog.Answers
import Gameshelf.Proofs.Catalog.Groups
import Gameshelf.Proofs.Catalog.Order
import Gameshelf.Proofs.Catalog.TitleIndex
import Gameshelf.Proofs.Disk.Basic
import Gameshelf.Proofs.Disk.Change
import Gameshelf.Proofs.Disk.Contents
import Gameshelf.Proofs.Disk.FileName
import Gameshelf.Proofs.Disk.Route
import Gameshelf.Proofs.Disk.Walk
import Gameshelf.Proofs.Download.Answer
import Gameshelf.Proofs.Download.ByteRange
import Gameshelf.Proofs.Download.Closing
import Gameshelf.Proofs.Download.Confinement
import Gameshelf.Proofs.Download.Delivery
import Gameshelf.Proofs.Download.RangeHeader
import Gameshelf.Proofs.Download.SafePath
import Gameshelf.Proofs.Download.Segments
import Gameshelf.Proofs.Download.Transfer
import Gameshelf.Proofs.Encoding.Percent
import Gameshelf.Proofs.Encoding.Segments
import Gameshelf.Proofs.Json.RoundTrip
import Gameshelf.Proofs.Json.Strings
import Gameshelf.Proofs.Library.Complete
import Gameshelf.Proofs.Library.Contents
import Gameshelf.Proofs.Library.Listing
import Gameshelf.Proofs.Library.Refresh
import Gameshelf.Proofs.Library.Scan
import Gameshelf.Proofs.Library.Visits
import Gameshelf.Proofs.Server.Fetch
import Gameshelf.Proofs.Server.GameAddress
import Gameshelf.Proofs.Server.Guard
import Gameshelf.Proofs.Server.RangeRequest
import Gameshelf.Proofs.Server.RateLimit
import Gameshelf.Proofs.Server.Shop
import Gameshelf.Proofs.Shop.Newest
import Gameshelf.Proofs.Shop.Section
import Gameshelf.Proofs.Text.Case
import Gameshelf.Proofs.Title.Places
import Gameshelf.Proofs.Title.Token
import Gameshelf.Proofs.Titles.Cache
import Gameshelf.Proofs.Titles.Directory
import Gameshelf.Proofs.Catalog.Components
import Gameshelf.Proofs.Access.Authorization
import Gameshelf.Proofs.Access.Credentials
import Gameshelf.Proofs.Server.Authentication
import Gameshelf.Proofs.Titles.Merging
import Gameshelf.Proofs.Disk.Replacement
import Gameshelf.Proofs.Disk.Refusal
import Gameshelf.Proofs.Titles.Saving
import Gameshelf.Proofs.Titles.Sources
import Gameshelf.Proofs.Titles.Background
import Gameshelf.Proofs.Server.HeadRequest
import Gameshelf.Proofs.Text.Sigma
import Gameshelf.Proofs.Catalog.Search
import Gameshelf.Proofs.Settings.Precedence
import Gameshelf.Proofs.Settings.Loading
import Gameshelf.Proofs.Disk.Document
import Gameshelf.Proofs.Disk.Resolution
import Gameshelf.Proofs.Server.Opening
import Gameshelf.Proofs.CommandLine.Start
import Gameshelf.Proofs.Text.Hexadecimal
import Gameshelf.Proofs.Title.Id
import Gameshelf.Proofs.Titles.Payload
import Gameshelf.Proofs.Server.Icon
