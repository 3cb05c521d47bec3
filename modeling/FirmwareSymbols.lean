import FirmwareSymbols.AllowList
import FirmwareSymbols.Check
import FirmwareSymbols.CommandLine.Run
import FirmwareSymbols.Demangle.Readable
import FirmwareSymbols.Main
import FirmwareSymbols.Raster.Conversion
import FirmwareSymbols.Resolution
import FirmwareSymbols.SymbolList
import FirmwareSymbols.Proofs.AddressTable
import FirmwareSymbols.Proofs.Resolution
import FirmwareSymbols.Proofs.Json.Writer
import FirmwareSymbols.Proofs.SymbolList
import FirmwareSymbols.Proofs.Check
import FirmwareSymbols.Proofs.Elf.Bytes
import FirmwareSymbols.Proofs.Elf.Layout
import FirmwareSymbols.Proofs.Elf.Image
import FirmwareSymbols.Proofs.Elf.Assembly
import FirmwareSymbols.Proofs.JsonList
import FirmwareSymbols.Proofs.AllowList
import FirmwareSymbols.Proofs.CheckedImages
import FirmwareSymbols.Proofs.Text.Utf8
import FirmwareSymbols.Proofs.Elf.Rows
import FirmwareSymbols.Proofs.FileSystem.Discovery
import FirmwareSymbols.Proofs.FileSystem.Node
import FirmwareSymbols.Proofs.FileSystem.Write
import FirmwareSymbols.Proofs.CommandLine.Spelling
import FirmwareSymbols.Proofs.CommandLine.Find
import FirmwareSymbols.Proofs.CommandLine.Check
import FirmwareSymbols.Proofs.CommandLine.Dump
import FirmwareSymbols.Proofs.TextList
import FirmwareSymbols.Proofs.Construction
import FirmwareSymbols.Proofs.Elf.Table
import FirmwareSymbols.Proofs.ListFormat
import FirmwareSymbols.Proofs.CommandLine.Exchange
import FirmwareSymbols.Proofs.TextLayout
import FirmwareSymbols.Proofs.Lookup
import FirmwareSymbols.Proofs.CheckReport
import FirmwareSymbols.Proofs.Text.Digits
import FirmwareSymbols.Proofs.TableReader
import FirmwareSymbols.Proofs.Padding
import FirmwareSymbols.Proofs.Demangle.NestedNames
import FirmwareSymbols.Proofs.Demangle.Nameless
import FirmwareSymbols.Proofs.FileName
import FirmwareSymbols.Proofs.Raster.Dpi
import FirmwareSymbols.Proofs.Raster.Arguments
import FirmwareSymbols.Proofs.Raster.Watch
import FirmwareSymbols.Proofs.Raster.Drawings
import FirmwareSymbols.Proofs.Raster.Batch
import FirmwareSymbols.Proofs.FirstAddress
import FirmwareSymbols.Proofs.RowNumbers
import FirmwareSymbols.Proofs.FileSystem.ListingOrder
